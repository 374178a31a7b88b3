import EarlyBreak.Proofs.Entry.Records
import Mathlib.Data.List.Dedup

/-! The guards of a set of files.  Neither the order in which sources are guarded nor how often and
how they are spelled makes a difference: there is one breakpoint for each stem.
-/

namespace EarlyBreak

open Debugger

namespace Debugger

/-- The breakpoint that the engine was told to set. -/
def Act.toldToSet? : Act → Option UrlBreakpoint
  | .command (.setBreakpoint breakpoint) _ => some breakpoint
  | _ => none

theorem UrlBreakpoint.atEntry_inj {pattern other : String}
    : UrlBreakpoint.atEntry pattern = .atEntry other ↔ pattern = other := by
  simp [UrlBreakpoint.atEntry]

namespace Recorded

variable {σ : Type} {recorded told : Recorded σ} {command : Command} {reply : Reply}

/-- The breakpoints that the engine was told to set, one for each command to do so. -/
def settings (recorded : Recorded σ) : List UrlBreakpoint :=
  recorded.acts.filterMap Act.toldToSet?

/-- The engine handed out an id for each breakpoint that it was told to set. -/
def Succeeding (recorded : Recorded σ) : Prop :=
  ∀ act ∈ recorded.acts, act.toldToSet?.isSome → act.handedOut?.isSome

instance (recorded : Recorded σ) : Decidable recorded.Succeeding :=
  inferInstanceAs
    (Decidable (∀ act ∈ recorded.acts, act.toldToSet?.isSome → act.handedOut?.isSome))

variable [Engine σ]

theorem settings_of_perform (replied : Engine.perform command recorded = (reply, told))
    : told.settings = recorded.settings ++ (Act.command command reply).toldToSet?.toList :=
  filterMap_of_perform Act.toldToSet? replied

/-- What succeeded throughout did so with every command. -/
theorem Succeeding.of_perform (succeeding : told.Succeeding)
    (replied : Engine.perform command recorded = (reply, told))
    : recorded.Succeeding
      ∧ ∀ breakpoint, command = .setBreakpoint breakpoint → ∃ id, reply = .ok (some id) := by
  have acts := acts_of_perform replied
  constructor
  · intro act earlier
    exact succeeding act (acts ▸ List.mem_append_left _ earlier)
  · rintro breakpoint rfl
    have handed : (Act.command (.setBreakpoint breakpoint) reply).handedOut?.isSome :=
      succeeding _ (acts ▸ List.mem_append_right _ (List.mem_singleton_self _)) rfl
    cases reply with
    | error e => cases handed
    | ok named => exact (Option.isSome_iff_exists.mp handed).imp fun _ same => congrArg _ same

end Recorded

end Debugger

namespace Entry.Registry

variable {σ : Type} {before after registry : Registry} {recorded told : Recorded σ}
  {files : List String} {file source : String}

/-- The engine was told once to set a breakpoint for each pattern of some files. -/
structure SetOnce (settings : List UrlBreakpoint) (files : List String) : Prop where
  once : settings.Nodup
  exact
    : ∀ breakpoint,
        breakpoint ∈ settings ↔ ∃ file ∈ files, .atEntry (Entry.pattern file) = breakpoint

variable {settings : List UrlBreakpoint}

/-- For a file whose pattern is known, nothing more has to be set. -/
theorem SetOnce.again (set : SetOnce settings files)
    (known : ∃ other ∈ files, Entry.pattern other = Entry.pattern file)
    : SetOnce settings (files ++ [file]) where
  once := set.once
  exact := by
    intro breakpoint
    simp only [set.exact, List.mem_append, List.mem_singleton, or_and_right, exists_or,
      exists_eq_left]
    obtain ⟨other, member, patterned⟩ := known
    refine (or_iff_left_of_imp fun same => ⟨other, member, ?_⟩).symm
    rw [patterned, same]

/-- For a file with a pattern of its own, that one has to be set. -/
theorem SetOnce.anew (set : SetOnce settings files)
    (new : ¬ ∃ other ∈ files, Entry.pattern other = Entry.pattern file)
    : SetOnce (settings ++ [.atEntry (Entry.pattern file)]) (files ++ [file]) where
  once := by
    refine List.nodup_append.mpr ⟨set.once, List.nodup_singleton _, ?_⟩
    rintro breakpoint member _ last rfl
    obtain ⟨other, among, same⟩ := (set.exact breakpoint).mp member
    rw [List.mem_singleton.mp last] at same
    exact new ⟨other, among, UrlBreakpoint.atEntry_inj.mp same⟩
  exact := by
    intro breakpoint
    simp only [set.exact, List.mem_append, List.mem_singleton, or_and_right, exists_or,
      exists_eq_left]
    exact or_congr_right eq_comm

theorem SetOnce.congr {others : List String} (set : SetOnce settings files)
    (same : ∀ file, file ∈ files ↔ file ∈ others)
    : SetOnce settings others :=
  ⟨set.once, by simpa only [same] using set.exact⟩

/-- The stem can be read off the pattern of a breakpoint, as escaping is injective. -/
theorem pattern_injective {stem other : List Char}
    (same : UrlBreakpoint.atEntry (String.ofList (expression stem).render)
      = .atEntry (String.ofList (expression other).render))
    : stem = other :=
  render_expression_injective (String.ofList_injective (UrlBreakpoint.atEntry_inj.mp same))

/-- So one breakpoint had to be set for each stem. -/
theorem SetOnce.length_eq (set : SetOnce settings files)
    : settings.length = (files.map fun file => stem file.toList).dedup.length := by
  have patterns : settings.Perm
      ((files.map fun file => stem file.toList).dedup.map fun stem =>
        .atEntry (String.ofList (expression stem).render)) := by
    refine (List.perm_ext_iff_of_nodup set.once ?_).mpr fun breakpoint => ?_
    · exact (List.nodup_dedup _).map fun _ _ => pattern_injective
    · simp [set.exact, Entry.pattern]
  rw [patterns.length_eq, List.length_map]

/-- A registry and its engine guard some files: exactly they wait, and the engine was told once to
set a breakpoint for each of their patterns.
-/
structure Guards (registry : Registry) (recorded : Recorded σ) (files : List String) : Prop where
  coherent : registry.Coherent
  ordered : registry.Ordered
  expressed : registry.Expressed
  pending : ∀ file, registry.Pending file ↔ file ∈ files
  set : SetOnce recorded.settings files

theorem guards_empty (target : σ) : ({} : Registry).Guards (⟨target, []⟩ : Recorded σ) [] where
  coherent := coherent_empty
  ordered := ordered_empty
  expressed := expressed_empty
  pending := fun file => iff_of_false (not_pending_empty file) List.not_mem_nil
  set := ⟨List.nodup_nil, by simp [Recorded.settings]⟩

/-- A file that is guarded and waits is one more among the files that wait. -/
theorem Added.pending_iff (added : Added before file after) (coherent : before.Coherent)
    (waits : after.Pending file) (other : String)
    : after.Pending other ↔ before.Pending other ∨ other = file := by
  obtain ⟨kept, only⟩ : (before.Pending other → after.Pending other)
      ∧ (after.Pending other → before.Pending other ∨ other = file) := added.pending coherent
  exact ⟨only, fun either => either.elim kept fun same => same ▸ waits⟩

/-- A pattern that no record has is that of no file that is guarded. -/
theorem Guards.exists_patterned_iff (guards : registry.Guards recorded files)
    : (∃ other ∈ files, Entry.pattern other = Entry.pattern file)
      ↔ ∃ slot, registry.byPattern.find? (Entry.pattern file) = some slot := by
  simp only [← guards.pending, guards.coherent.patterns]
  exact (guards.coherent.exists_record_iff (· = Entry.pattern file)).symm

variable [Engine σ]

/-- Guarding one more source adds its file if the engine succeeds. -/
theorem Guards.concat (guards : before.Guards recorded files)
    (effect : Effect before recorded (.guard source) after told) (coherent : after.Coherent)
    (succeeding : told.Succeeding)
    : after.Guards told (files ++ [ScriptUrl.canonical source]) := by
  have expressed : after.Expressed := effect.expressed guards.coherent guards.expressed
  have pending (added : Added before (ScriptUrl.canonical source) after)
      (waits : ∃ slot, after.byFile.find? (ScriptUrl.canonical source) = some slot) (file : String)
      : after.Pending file ↔ file ∈ files ++ [ScriptUrl.canonical source] := by
    rw [added.pending_iff guards.coherent (coherent.pending_iff.mpr waits), guards.pending,
      List.mem_append, List.mem_singleton]
  cases effect with
  | waiting known =>
      refine ⟨coherent, guards.ordered, expressed, pending .unchanged ⟨_, known⟩,
        guards.set.again ?_⟩
      exact ⟨_, (guards.pending _).mp (coherent.pending_iff.mpr ⟨_, known⟩), rfl⟩
  | shared unknown live patterned =>
      refine ⟨coherent, Ordered.addPending guards.ordered live _, expressed,
        pending (.shared unknown live patterned) ?_, guards.set.again ?_⟩
      · simp only [Registry.addPending, live, Index.find?_set_self]
        exact ⟨_, rfl⟩
      · rw [guards.exists_patterned_iff]
        exact ⟨_, (guards.coherent.patterns _ _).mpr ⟨_, live, patterned.symm⟩⟩
  | refused replied unnamed =>
      obtain ⟨id, named⟩ := (succeeding.of_perform replied).2 _ rfl
      exact absurd named (unnamed id)
  | installed unknown unshared replied =>
      refine ⟨coherent,
        Ordered.insert guards.ordered guards.coherent _ (List.pairwise_singleton _ _), expressed,
        pending (.installed unknown unshared) ?_, ?_⟩
      · exact ⟨_, Index.find?_set_self _ _ _⟩
      · rw [Recorded.settings_of_perform replied]
        refine guards.set.anew ?_
        rw [guards.exists_patterned_iff, unshared]
        rintro ⟨slot, found⟩
        cases found

/-- An empty registry and its engine after some sources were guarded. -/
def guardAll (sources : List String) (target : σ) : Registry × Recorded σ :=
  operateAll {} (sources.map .guard) ⟨target, []⟩

/-- Guarding sources guards their files if the engine succeeds throughout, by induction along the
sources from their end.
-/
theorem guards_guardAll (sources : List String) (target : σ)
    (succeeding : (guardAll sources target).2.Succeeding)
    : (guardAll sources target).1.Guards (guardAll sources target).2
        (sources.map ScriptUrl.canonical) := by
  induction sources using List.reverseRecOn with
  | nil => exact guards_empty target
  | append_singleton earlier last ih =>
      rw [guardAll, List.map_append, List.map_singleton, operateAll_append] at succeeding ⊢
      rw [List.map_append, List.map_singleton]
      have coherent : (guardAll earlier target).1.Coherent := coherent_empty.operateAll _ _
      have effect := coherent.effect (.guard last) (guardAll earlier target).2
      have before : (guardAll earlier target).2.Succeeding := by
        rcases effect.commanded with same | ⟨command, reply, replied⟩
        · rwa [← same]
        · exact (succeeding.of_perform replied).1
      exact (ih before).concat effect (coherent.operate _ _) succeeding

/-- The stem of the file that a source is guarded as. -/
def fileStem (source : String) : List Char := stem (ScriptUrl.canonical source).toList

/-- Two sources share a stem exactly if their breakpoints have one pattern. -/
theorem fileStem_eq_iff {other : String}
    : fileStem other = fileStem source
      ↔ Entry.pattern (ScriptUrl.canonical other) = Entry.pattern (ScriptUrl.canonical source) := by
  rw [fileStem, fileStem, Entry.pattern, Entry.pattern]
  constructor
  · intro same
    rw [same]
  · exact fun same => render_expression_injective (String.ofList_injective same)

/-- A source that is guarded is answered the breakpoint on which the files of its stem wait. -/
theorem Guards.answers {registry : Registry} {recorded : Recorded σ} {sources : List String}
    (guards : registry.Guards recorded (sources.map ScriptUrl.canonical)) {source : String}
    (member : source ∈ sources)
    : ∃ record ∈ registry.records,
        (registry.add source recorded).1 = some record.id
        ∧ ∀ other ∈ sources,
            ScriptUrl.canonical other ∈ record.pending ↔ fileStem other = fileStem source := by
  have waits {source : String} (member : source ∈ sources)
      : registry.Pending (ScriptUrl.canonical source) :=
    (guards.pending _).mpr (List.mem_map_of_mem member)
  obtain ⟨slot, record, live, pending⟩ := waits member
  refine ⟨record, mem_records.mpr ⟨slot, live⟩, ?_, fun other also => ?_⟩
  · have known := (guards.coherent.files _ slot).mpr ⟨record, live, pending⟩
    simp only [Registry.add, known, idAt?, live, Option.map_some]
  · rw [guards.coherent.mem_pending_iff live, fileStem_eq_iff, and_iff_right (waits also),
      (guards.coherent.serving live).patterned _ pending]

theorem SetOnce.length_eq_of_sources {sources : List String}
    (set : SetOnce settings (sources.map ScriptUrl.canonical))
    : settings.length = (sources.map fileStem).dedup.length := by
  have stems : (sources.map ScriptUrl.canonical).map (fun file => stem file.toList)
      = sources.map fileStem := by
    rw [List.map_map]
    refine List.map_congr_left fun source _ => ?_
    rw [Function.comp_apply, fileStem]
  rw [set.length_eq, stems]

/-- Guarding two lists of sources that are the same files comes to the same if the engines succeed:
the same files wait on the same patterns, the same sources are pending and the same scripts are
going to stop.  Either engine is told to set as many breakpoints as the files have stems, and two
files wait on one breakpoint exactly if they have one stem.
-/
theorem guards_of_files {τ : Type} [Engine τ] {sources others : List String}
    (same : ∀ file, file ∈ sources.map ScriptUrl.canonical ↔ file ∈ others.map ScriptUrl.canonical)
    (target : σ) (elsewhere : τ) (succeeding : (guardAll sources target).2.Succeeding)
    (alsoSucceeding : (guardAll others elsewhere).2.Succeeding)
    : let one := guardAll sources target
      let two := guardAll others elsewhere
      one.1.entries = two.1.entries
      ∧ (∀ source, one.1.hasPending source = two.1.hasPending source)
      ∧ (∀ url, one.1.willPauseFor url = two.1.willPauseFor url)
      ∧ one.2.settings.length = (sources.map fileStem).dedup.length
      ∧ two.2.settings.length = one.2.settings.length
      ∧ ∀ source ∈ sources,
          ∃ record ∈ one.1.records,
            (one.1.add source one.2).1 = some record.id
            ∧ ∀ other ∈ sources,
                ScriptUrl.canonical other ∈ record.pending ↔ fileStem other = fileStem source := by
  have guards := guards_guardAll sources target succeeding
  have twins := guards_guardAll others elsewhere alsoSucceeding
  obtain ⟨entries, pending, stops⟩ := guards.coherent.alike guards.ordered guards.expressed
    twins.coherent twins.ordered twins.expressed fun file => by
      rw [guards.pending, twins.pending, same]
  have settings := guards.set.length_eq_of_sources
  have also := (twins.set.congr fun file => (same file).symm).length_eq_of_sources
  exact ⟨entries, pending, stops, settings, also.trans settings.symm, fun source => guards.answers⟩

/-- Two files of one stem and a third, in two orders, once with a file repeated and with its URL as
well as its path.
-/
theorem guards_of_three_files
    : let one := guardAll ["/src/app.ts", "/lib/app.js", "/src/main.ts"] ({} : Simulation)
      let two := guardAll ["/src/main.ts", "file:///src/app.ts", "/lib/app.js", "/src/app.ts"]
        ({} : Simulation)
      one.1.entries = two.1.entries ∧ one.2.settings.length = 2 ∧ two.2.settings.length = 2 := by
  have canonical
      : ["/src/app.ts", "/lib/app.js", "/src/main.ts"].map ScriptUrl.canonical
          = ["/src/app.ts", "/lib/app.js", "/src/main.ts"]
        ∧ ["/src/main.ts", "file:///src/app.ts", "/lib/app.js", "/src/app.ts"].map
            ScriptUrl.canonical
          = ["/src/main.ts", "/src/app.ts", "/lib/app.js", "/src/app.ts"] := by
    decide +kernel
  have same (file : String)
      : file ∈ ["/src/app.ts", "/lib/app.js", "/src/main.ts"].map ScriptUrl.canonical
        ↔ file ∈ ["/src/main.ts", "file:///src/app.ts", "/lib/app.js", "/src/app.ts"].map
            ScriptUrl.canonical := by
    rw [canonical.1, canonical.2]
    simp only [List.mem_cons]
    grind
  have stems : (["/src/app.ts", "/lib/app.js", "/src/main.ts"].map fileStem).dedup.length = 2 := by
    decide +kernel
  obtain ⟨entries, -, -, first, second, -⟩ := guards_of_files same ({} : Simulation)
    ({} : Simulation) (by decide +kernel) (by decide +kernel)
  exact ⟨entries, first.trans stems, second.trans (first.trans stems)⟩

end Entry.Registry

end EarlyBreak
