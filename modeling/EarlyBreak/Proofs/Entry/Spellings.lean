import EarlyBreak.Debugger.Simulation
import EarlyBreak.Entry.Registry
import EarlyBreak.Proofs.Url.FilePaths

/-! The two spellings of a file, by its path and by its URL.  Whatever tells files apart takes them
for the same one: the canonical form, the key of a source, and the registry.
-/

namespace EarlyBreak.Entry

open Debugger
open EarlyBreak.Path (slash)

variable {source asked : String} {p : Path} {byte : UInt8}

/-- Besides slashes an absolute path in normal form is written with what its components are. -/
theorem exists_component (absolute : p.isAbsolute = true) (normal : p.IsNormal)
    (member : byte ∈ p.bytes)
    : ∃ component ∈ p.components, byte ∈ component.bytes := by
  cases normal with
  | relative ups names plain =>
      rw [Path.isAbsolute_intercalate (Path.isStep_of_relative plain ups)] at absolute
      cases absolute
  | absolute names plain =>
      rw [Path.components_absolute plain]
      have root : ∃ component ∈ Path.Component.root :: names.map .name,
          slash ∈ component.bytes :=
        ⟨.root, List.mem_cons_self, List.mem_singleton_self _⟩
      rcases List.mem_cons.mp member with rfl | behind
      · exact root
      · rcases Text.mem_intercalate behind with rfl | ⟨name, among, within⟩
        · exact root
        · exact ⟨.name name, List.mem_cons_of_mem _ (List.mem_map_of_mem among), within⟩

theorem find?_addPending (registry : Registry) {slot : Nat} {record : Record} (file : String)
    (live : registry.record? slot = some record)
    : (registry.addPending slot file).byFile.find? file = some slot := by
  rw [Registry.addPending, live]
  exact Index.find?_set_self file slot registry.byFile

theorem find?_insert (registry : Registry) (pattern : String) (id : BreakpointId) (file : String)
    (matcher : Regex)
    : ∃ slot, (registry.insert ⟨pattern, id, [file]⟩ matcher).byFile.find? file = some slot := by
  rw [Registry.insert]
  exact ⟨_, Index.find?_set_self file _ _⟩

/-- Once a file is added, it waits, by whatever spelling has the same canonical form. -/
theorem hasPending_add {σ : Type} [Engine σ] (registry : Registry) (engine : σ)
    (same : ScriptUrl.canonical source = ScriptUrl.canonical asked)
    (added : (registry.add source engine).1.isSome = true)
    : (registry.add source engine).2.1.hasPending asked = true := by
  rw [Registry.hasPending, Index.has_iff, ← same]
  unfold Registry.add at added ⊢
  simp only at added ⊢
  split
  case h_1 slot known => exact ⟨slot, known⟩
  case h_2 unknown =>
    simp only [unknown] at added
    split
    case h_1 slot listed =>
      simp only [listed, Registry.idAt?, Option.isSome_map] at added
      obtain ⟨record, live⟩ := Option.isSome_iff_exists.mp added
      exact ⟨slot, find?_addPending registry _ live⟩
    case h_2 unlisted =>
      simp only [unlisted] at added
      split at added
      case h_1 id after answer =>
        simp only
        exact find?_insert registry _ id _ _
      case h_2 => cases added

/-- A path in normal form without colons and bars in its components is read back from its file URL,
and the two are one file: they have one canonical form and lead to one source key, and a registry
that either is added to has the other waiting.
-/
theorem spellings_same (absolute : (Path.ofString source).isAbsolute = true)
    (normal : (Path.ofString source).normalize = Path.ofString source)
    (free : ∀ component ∈ (Path.ofString source).components,
      Url.byteOf ':' ∉ component.bytes ∧ Url.byteOf '|' ∉ component.bytes)
    : ∃ url,
        ScriptUrl.ofPath? (Path.ofString source) = some url
        ∧ ScriptUrl.filePath? url = some (Path.ofString source)
        ∧ ScriptUrl.canonical url = ScriptUrl.canonical source
        ∧ (∀ decoded,
            ScriptUrl.filePath? url = some decoded →
            ScriptUrl.sourceKey decoded = ScriptUrl.sourceKey (Path.ofString source))
        ∧ ∀ (σ : Type) [Engine σ] (registry : Registry) (engine : σ),
            ∀ added ∈ [source, url],
              (registry.add added engine).1.isSome = true →
              ∀ asked ∈ [source, url],
                (registry.add added engine).2.1.hasPending asked = true := by
  have isNormal : (Path.ofString source).IsNormal := normal ▸ (Path.spells_normalize _).1
  have clear {byte : UInt8}
      (none : ∀ component ∈ (Path.ofString source).components, byte ∉ component.bytes)
      : byte ∉ (Path.ofString source).bytes := by
    intro member
    obtain ⟨component, among, within⟩ := exists_component absolute isNormal member
    exact none component among within
  obtain ⟨url, given, back⟩ := Url.filePath?_ofPath? absolute isNormal
    (clear fun component member => (free component member).1)
    (clear fun component member => (free component member).2)
  have text : (Path.ofString source).text = source := Text.ofBytesLossy_toBytes source
  have noUrl : ScriptUrl.filePath? source = none := by
    rw [Path.isAbsolute, Path.ofString, ← Text.encoded_toList, beq_iff_eq] at absolute
    obtain ⟨rest, starts⟩ := Text.eq_slash_of_head? absolute
    exact Url.filePath?_of_slash starts
  have canonical : ScriptUrl.canonical url = ScriptUrl.canonical source := by
    simp only [ScriptUrl.canonical, back, noUrl, text]
  refine ⟨url, given, back, canonical, ?_, ?_⟩
  · intro decoded read
    rw [Option.some.inj (back.symm.trans read)]
  · intro σ _ registry engine added isAdded answered asked isAsked
    have one (spelling : String) (isSpelling : spelling ∈ [source, url])
        : ScriptUrl.canonical spelling = ScriptUrl.canonical source := by
      rcases List.mem_cons.mp isSpelling with rfl | isUrl
      · rfl
      · rw [List.mem_singleton.mp isUrl, canonical]
    have same := (one added isAdded).trans (one asked isAsked).symm
    exact hasPending_add registry engine same answered

/-- What a URL would take for something else is escaped, and a new registry has the file waiting
under either spelling once it is added under the other.
-/
theorem spellings_same_sample
    : let source := "/work/100% caf\u00e9\\a\tb\x01/#1?.ts"
      let url := "file:///work/100%25%20caf%C3%A9%5Ca%09b%01/%231%3F.ts"
      let target : Simulation := {}
      ScriptUrl.ofPath? (Path.ofString source) = some url
      ∧ ScriptUrl.filePath? url = some (Path.ofString source)
      ∧ ScriptUrl.canonical url = ScriptUrl.canonical source
      ∧ (∃ decoded,
          ScriptUrl.filePath? url = some decoded
          ∧ ScriptUrl.sourceKey decoded = ScriptUrl.sourceKey (Path.ofString source))
      ∧ (({} : Registry).add source target).1.isSome = true
      ∧ (({} : Registry).add source target).2.1.hasPending url = true
      ∧ (({} : Registry).add url target).1.isSome = true
      ∧ (({} : Registry).add url target).2.1.hasPending source = true := by
  intro source url target
  have absolute : (Path.ofString source).isAbsolute = true := by decide +kernel
  have normal : (Path.ofString source).normalize = Path.ofString source := by decide +kernel
  obtain ⟨found, given, back, canonical, keys, waits⟩ :=
    spellings_same absolute normal (by decide +kernel)
  have written : ScriptUrl.ofPath? (Path.ofString source) = some url := by decide +kernel
  obtain rfl : found = url := Option.some.inj (given.symm.trans written)
  -- A new registry knows no file yet, and a new target sets every breakpoint.
  have answered (spelling : String) : (({} : Registry).add spelling target).1.isSome = true := rfl
  have behind : url ∈ [source, url] := List.mem_cons_of_mem _ (List.mem_singleton_self url)
  have byUrl := waits Simulation {} target source List.mem_cons_self (answered source) url behind
  have bySource := waits Simulation {} target url behind (answered url) source List.mem_cons_self
  exact ⟨given, back, canonical, ⟨_, back, keys _ back⟩, answered source, byUrl, answered url,
    bySource⟩

end EarlyBreak.Entry
