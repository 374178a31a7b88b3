import EarlyBreak.Proofs.Entry.Guards
import EarlyBreak.Proofs.Entry.Names
import EarlyBreak.Proofs.Url.FileNames
import EarlyBreak.Proofs.Url.Slashes

/-! Which compiled files the breakpoint of a source stops in.  The engine has a file by its URL, in
which some bytes of its name are escaped, and the pattern has the name as it is: so a file with the
stem of the source is stopped in if that stem needs no escapes, or by chance, if a folder above the
file goes by the stem.
-/

namespace EarlyBreak

namespace Text

open OutFiles (behindSlashes cons_intercalate)

/-- The pieces of a text are what stands between two slashes, or one and an end of the text. -/
theorem mem_splitOn_iff {text piece : List Char}
    : piece ∈ text.splitOn '/'
      ↔ '/' ∉ piece
        ∧ ∃ before behind,
            text = before ++ piece ++ behind
            ∧ (before = [] ∨ ∃ folders, before = folders ++ ['/'])
            ∧ (behind = [] ∨ ∃ rest, behind = '/' :: rest) := by
  constructor
  · intro member
    refine ⟨Path.not_mem_of_mem_splitOn member, ?_⟩
    obtain ⟨front, back, pieces⟩ := List.append_of_mem member
    have whole : '/' :: text = behindSlashes front ++ '/' :: piece ++ behindSlashes back := by
      calc '/' :: text
        _ = '/' :: ['/'].intercalate (text.splitOn '/') := by rw [List.intercalate_splitOn]
        _ = behindSlashes (text.splitOn '/') := cons_intercalate (List.splitOn_ne_nil '/' text)
        _ = _ := by simp [pieces, behindSlashes]
    have after : behindSlashes back = [] ∨ ∃ rest, behindSlashes back = '/' :: rest := by
      cases back with
      | nil => exact Or.inl rfl
      | cons next more => exact Or.inr ⟨next ++ behindSlashes more, rfl⟩
    cases front with
    | nil => exact ⟨[], behindSlashes back, (List.cons.inj whole).2, Or.inl rfl, after⟩
    | cons first others =>
        refine ⟨first ++ behindSlashes others ++ ['/'], behindSlashes back, ?_,
          Or.inr ⟨_, rfl⟩, after⟩
        simpa [behindSlashes] using whole
  · rintro ⟨noSlash, before, behind, rfl, front, back⟩
    have first : piece ∈ (piece ++ behind).splitOn '/' := by
      rcases back with rfl | ⟨rest, rfl⟩
      · rw [List.append_nil, List.splitOn_eq_singleton noSlash]
        exact List.mem_singleton_self _
      · rw [List.splitOn_append_cons_self, List.splitOn_eq_singleton noSlash]
        exact List.mem_cons_self
    rw [List.append_assoc]
    rcases front with rfl | ⟨folders, rfl⟩
    · exact first
    · rw [List.append_assoc, List.singleton_append, List.splitOn_append_cons_self]
      exact List.mem_append_right _ first

end Text

namespace Entry

open Debugger
open OutFiles (slashed)

/-- A piece between slashes that goes by a stem: it starts with the stem, and what comes next can
follow one.
-/
def GoesBy (stem piece : List Char) : Prop := ∃ behind, piece = stem ++ behind ∧ Follows behind

theorem Follows.of_append {text more : List Char} (follows : Follows (text ++ more))
    : Follows text := by
  cases text with
  | nil => exact Or.inl rfl
  | cons c text =>
      rcases follows with nothing | ⟨_, _, same, other, line⟩
      · cases nothing
      · obtain ⟨rfl, rfl⟩ := List.cons.inj same
        exact Or.inr ⟨c, text, rfl, other, mt (List.mem_append_left more) line⟩

/-- What follows a stem in its piece goes on to the end of the text. -/
theorem Follows.append {text more : List Char} (follows : Follows text) (line : '\n' ∉ more)
    (ends : more = [] ∨ ∃ rest, more = '/' :: rest)
    : Follows (text ++ more) := by
  rcases follows with rfl | ⟨c, rest, rfl, other, first⟩
  · rcases ends with rfl | ⟨rest, rfl⟩
    · exact Or.inl rfl
    · exact Or.inr ⟨'/', rest, rfl, by decide, mt (List.mem_cons_of_mem '/') line⟩
  · refine Or.inr ⟨c, rest ++ more, rfl, other, ?_⟩
    rw [List.mem_append, not_or]
    exact ⟨first, line⟩

/-- On one line and without backslashes, an entry expression is found in the texts of which some
piece goes by its stem.
-/
theorem search_expression_iff_piece {stem text : List Char} (noSlash : '/' ∉ stem)
    (backslash : '\\' ∉ text) (line : '\n' ∉ text)
    : (expression stem).search text = true ↔ ∃ piece ∈ text.splitOn '/', GoesBy stem piece := by
  rw [search_expression_iff]
  constructor
  · rintro ⟨before, behind, rfl, leads, follows⟩
    -- The piece reaches to the next slash, if there is one.
    obtain ⟨name, rest, rfl, within, ends⟩
        : ∃ name rest,
            behind = name ++ rest ∧ '/' ∉ name ∧ (rest = [] ∨ ∃ more, rest = '/' :: more) := by
      by_cases slash : '/' ∈ behind
      · obtain ⟨name, more, cut, within⟩ := List.eq_append_cons_of_mem slash
        exact ⟨name, '/' :: more, cut, within, Or.inr ⟨more, rfl⟩⟩
      · exact ⟨behind, [], (List.append_nil behind).symm, slash, Or.inl rfl⟩
    refine ⟨stem ++ name, Text.mem_splitOn_iff.mpr ⟨?_, before, rest, ?_, ?_, ends⟩,
      name, rfl, follows.of_append⟩
    · rw [List.mem_append, not_or]
      exact ⟨noSlash, within⟩
    · simp only [List.append_assoc]
    · rcases leads with rfl | ⟨folders, slash, rfl, rfl | rfl⟩
      · exact Or.inl rfl
      · exact Or.inr ⟨folders, rfl⟩
      · simp at backslash
  · rintro ⟨piece, among, behind, rfl, follows⟩
    obtain ⟨-, before, after, rfl, front, back⟩ := Text.mem_splitOn_iff.mp among
    refine ⟨before, behind ++ after, by simp only [List.append_assoc], ?_,
      follows.append (mt (List.mem_append_right _) line) back⟩
    rcases front with rfl | ⟨folders, rfl⟩
    · exact Or.inl rfl
    · exact Or.inr ⟨folders, '/', rfl, Or.inl rfl⟩

/-- The canonical form of an absolute path has slashes for its backslashes. -/
theorem canonical_of_slash {source : String} {rest : List Char}
    (starts : source.toList = '/' :: rest)
    : (ScriptUrl.canonical source).toList = slashed source.toList := by
  have whole : slashed ('/' :: rest) = '/' :: slashed rest := rfl
  rw [ScriptUrl.toList_canonical, Url.filePath?_of_slash starts, Option.elim_none, starts, whole,
    ScriptUrl.forwardSlashes_slash_cons]

/-- The stem of a source whose name has no backslash is the stem of that name. -/
theorem encoded_fileStem {source : String} {name stem : List UInt8}
    (absolute : (Path.ofString source).isAbsolute = true)
    (normal : (Path.ofString source).normalize = Path.ofString source)
    (named : (Path.ofString source).fileName? = some name) (hasStem : Path.HasStem name stem)
    (backslash : Url.byteOf '\\' ∉ name)
    : Text.encoded (Registry.fileStem source) = stem := by
  obtain ⟨folder, text, whole, rfl, noSlash, rest, starts⟩ :=
    Path.text_of_normal absolute normal named
  obtain ⟨start, rfl, cut⟩ := hasStem.text
  have plain : '\\' ∉ text := by
    intro member
    apply backslash
    rw [Text.encoded_eq, List.mem_flatMap]
    exact ⟨'\\', member, by decide⟩
  have isStem : IsStem (ScriptUrl.canonical source).toList start := by
    refine ⟨slashed folder ++ ['/'], text, ?_, Or.inr ⟨_, '/', rfl, Or.inl rfl⟩, noSlash, plain,
      cut⟩
    rw [canonical_of_slash starts, whole, ← List.singleton_append, ← List.append_assoc,
      OutFiles.slashed_append, OutFiles.slashed_append, OutFiles.slashed_eq_self plain]
    rfl
  rw [Registry.fileStem, ← isStem_iff.mp isStem]

/-- A stem has no slash, as it is part of what follows the last one. -/
theorem slash_not_mem_stem (url : List Char) : '/' ∉ stem url := by
  obtain ⟨folder, name, -, -, noSlash, -, cut⟩ := isStem_iff.mpr (Eq.refl (stem url))
  rcases cut with ⟨-, extension, rfl, -⟩ | ⟨rfl, -⟩
  · exact mt (List.mem_append_left _) noSlash
  · exact noSlash

/-- The name of a compiled file with the stem of a source goes by that stem in the URL of the file
exactly if the stem needs no escapes.
-/
theorem goesBy_encoded_iff {stem : List Char} {output : List UInt8}
    (hasStem : Path.HasStem output (Text.encoded stem))
    : GoesBy stem (Url.encodeBytes .fileName output) ↔ Url.Unescaped (Text.encoded stem) := by
  obtain ⟨ending, rfl, ends⟩ := hasStem.append
  rw [Url.encodeBytes_append]
  constructor
  · rintro ⟨behind, same, follows⟩
    by_contra escaped
    obtain ⟨c, rest, rfl, digit⟩ := Url.startsWithDigit_of_escaped escaped same
    rcases follows with nothing | ⟨_, _, same, other, -⟩
    · cases nothing
    · obtain ⟨rfl, rfl⟩ := List.cons.inj same
      rcases digit with rfl | rfl <;> exact absurd other (by decide)
  · intro plain
    refine ⟨Url.encodeBytes .fileName ending, by rw [Url.encodeBytes_of_unescaped plain], ?_⟩
    rcases ends with rfl | ⟨rest, rfl⟩
    · exact Or.inl rfl
    · have written : Url.encodeBytes .fileName (Path.dot :: rest)
          = '.' :: Url.encodeBytes .fileName rest := by
        have one : Url.encodeByte .fileName Path.dot = ['.'] := by decide +kernel
        rw [Url.encodeBytes, List.flatMap_cons, one]
        rfl
      exact Or.inr ⟨'.', _, written, by decide, (Url.separators_not_mem rest).2.2⟩

namespace Registry

variable {registry : Registry} {σ : Type} [Engine σ] {engine : σ}

/-- The breakpoint that is answered for a source is that of a record with its file's pattern. -/
theorem Coherent.post?_of_add (coherent : registry.Coherent) {source : String} {id : BreakpointId}
    (answered : (registry.add source engine).1 = some id)
    : ∃ slot,
        (registry.add source engine).2.1.post? slot
        = some (id, Entry.pattern (ScriptUrl.canonical source)) := by
  simp only [Registry.add] at answered ⊢
  cases known : registry.byFile.find? (ScriptUrl.canonical source) with
  | some slot =>
      obtain ⟨record, live, waits⟩ := (coherent.files _ slot).mp known
      simp only [known, idAt?, live, Option.map_some, Option.some.injEq] at answered ⊢
      exact ⟨slot, post?_eq_some_iff.mpr
        ⟨record, live, answered, ((coherent.serving live).patterned _ waits).symm⟩⟩
  | none =>
      simp only [known] at answered ⊢
      split at answered
      case h_1 slot shared =>
        obtain ⟨record, live, patterned⟩ := (coherent.patterns _ slot).mp shared
        simp only [idAt?, live, Option.map_some, Option.some.injEq] at answered ⊢
        refine ⟨slot, ?_⟩
        rw [addPending_post? live]
        exact post?_eq_some_iff.mpr ⟨record, live, answered, patterned⟩
      case h_2 unshared =>
        split at answered
        case h_1 given asked replied =>
          simp only
          refine ⟨_, (coherent.insert_post? _ _ _).trans (if_pos rfl) |>.trans ?_⟩
          rw [Option.some.inj answered]
          rfl
        case h_2 => cases answered

end Registry

namespace Trial

/-- At every moment of a trial the breakpoint that is answered for a source is installed with the
pattern of that source.  The pattern matches the URL of a compiled file exactly if some piece of the
URL goes by the stem of the source.  Where no backslash in the name of the source is read as a slash
and the compiled file has the stem of the source, this means that the stem needs no escapes or that
a folder above the compiled file goes by it.
-/
theorem catches_compiled_iff (steps : List Step) {source : String} {compiled : Path}
    {name output stem : List UInt8}
    (absolute : (Path.ofString source).isAbsolute = true)
    (normal : (Path.ofString source).normalize = Path.ofString source)
    (named : (Path.ofString source).fileName? = some name) (hasStem : Path.HasStem name stem)
    (alsoAbsolute : compiled.isAbsolute = true) (called : compiled.fileName? = some output)
    (sameStem : Path.HasStem output stem)
    : let trial := run {} steps
      let guarded := trial.registry.add source trial.target
      ∃ url,
        ScriptUrl.ofPath? compiled = some url
        ∧ ∀ id,
            guarded.1 = some id
            → ∃ pattern,
                guarded.2.2.installed.find? id = some (.atEntry pattern)
                ∧ (Matches pattern url
                  ↔ ∃ piece ∈ url.toList.splitOn '/', GoesBy (Registry.fileStem source) piece)
                ∧ (Url.byteOf '\\' ∉ name
                  → Text.encoded (Registry.fileStem source) = stem
                    ∧ (Matches pattern url
                      ↔ Url.Unescaped stem
                        ∨ ∃ folder ∈ (url.toList.splitOn '/').dropLast,
                            GoesBy (Registry.fileStem source) folder)) := by
  intro trial guarded
  obtain ⟨url, written⟩ : ∃ url, ScriptUrl.ofPath? compiled = some url := by
    rw [ScriptUrl.ofPath?, Url.ofPath?, if_pos alsoAbsolute]
    exact ⟨_, rfl⟩
  refine ⟨url, written, fun id answered => ?_⟩
  have agrees : trial.registry.Agrees trial.target := agrees_run Registry.agrees_start steps
  have added := (agrees_advance agrees (.operate (.guard source))).1
  obtain ⟨slot, post⟩ := agrees.coherent.post?_of_add answered
  obtain ⟨folders, pieces, backslash, line⟩ := Url.splitOn_ofPath? written called
  have found : Matches (Entry.pattern (ScriptUrl.canonical source)) url
      ↔ ∃ piece ∈ url.toList.splitOn '/', GoesBy (Registry.fileStem source) piece := by
    rw [Entry.pattern, matches_iff]
    exact search_expression_iff_piece (slash_not_mem_stem _) backslash line
  refine ⟨_, added.placed post, found, fun plain => ?_⟩
  have same := encoded_fileStem absolute normal named hasStem plain
  refine ⟨same, found.trans ?_⟩
  have last := goesBy_encoded_iff (same ▸ sameStem)
  rw [same] at last
  rw [pieces, List.dropLast_concat, ← last]
  simp only [List.mem_append, List.mem_singleton, or_and_right, exists_or, exists_eq_left]
  exact or_comm

/-- A source that joins the breakpoint of another of its stem, and its compiled file. -/
theorem catches_compiled_of_shared
    : let trial := run {} [.operate (.guard "/work/src/a-b.tsx")]
      let guarded := trial.registry.add "/work/src/a-b.ts" trial.target
      ∃ id pattern,
        guarded.1 = some id
        ∧ guarded.2.2.installed.find? id = some (.atEntry pattern)
        ∧ Matches pattern "file:///work/out/a-b.js" := by
  intro trial guarded
  have stems : Path.HasStem (Text.toBytes "a-b.ts") (Text.toBytes "a-b")
      ∧ Path.HasStem (Text.toBytes "a-b.js") (Text.toBytes "a-b") :=
    ⟨Or.inl ⟨by decide, Text.toBytes "ts", by decide, by decide⟩,
      Or.inl ⟨by decide, Text.toBytes "js", by decide, by decide⟩⟩
  have answered : guarded.1 = some ("1:0:0:" ++ Entry.pattern "/work/src/a-b.ts") := by
    decide +kernel
  have plain : Url.Unescaped (Text.toBytes "a-b") := by
    unfold Url.Unescaped
    decide +kernel
  have given : ScriptUrl.ofPath? (Path.ofString "/work/out/a-b.js")
      = some "file:///work/out/a-b.js" := by
    decide +kernel
  have source : (Path.ofString "/work/src/a-b.ts").isAbsolute = true
      ∧ (Path.ofString "/work/src/a-b.ts").normalize = Path.ofString "/work/src/a-b.ts" := by
    decide +kernel
  have compiled : (Path.ofString "/work/out/a-b.js").isAbsolute = true := by decide +kernel
  obtain ⟨url, written, caught⟩ :=
    catches_compiled_iff [.operate (.guard "/work/src/a-b.tsx")] source.1 source.2
      (by decide +kernel) stems.1 compiled (by decide +kernel) stems.2
  obtain rfl := Option.some.inj (given.symm.trans written)
  obtain ⟨pattern, installed, -, exactly⟩ := caught _ answered
  exact ⟨_, pattern, answered, installed,
    (exactly (by decide +kernel)).2.mpr (Or.inl plain)⟩

/-- A space in a name is escaped in the URL of the compiled file and not in the pattern, so the
breakpoint of the source does not stop in that file.
-/
theorem misses_escaped_compiled
    : let source := Path.ofString "/work/src/a b.ts"
      let compiled := Path.ofString "/work/out/a b.js"
      let guarded := ({} : Registry).add "/work/src/a b.ts" ({} : Simulation)
      source.isAbsolute = true
      ∧ source.normalize = source
      ∧ (∃ stem,
          (∃ name, source.fileName? = some name ∧ Path.HasStem name stem)
          ∧ ∃ output, compiled.fileName? = some output ∧ Path.HasStem output stem)
      ∧ ∃ url id pattern,
          ScriptUrl.ofPath? compiled = some url
          ∧ guarded.1 = some id
          ∧ guarded.2.2.installed.find? id = some (.atEntry pattern)
          ∧ ¬ Matches pattern url := by
  refine ⟨by decide +kernel, by decide +kernel, ⟨Text.toBytes "a b", ⟨Text.toBytes "a b.ts",
    by decide +kernel, Or.inl ⟨by decide, Text.toBytes "ts", by decide, by decide⟩⟩,
    Text.toBytes "a b.js", by decide +kernel,
    Or.inl ⟨by decide, Text.toBytes "js", by decide, by decide⟩⟩,
    "file:///work/out/a%20b.js", "1:0:0:" ++ Entry.pattern "/work/src/a b.ts",
    Entry.pattern "/work/src/a b.ts", by decide +kernel, by decide +kernel, by decide +kernel, ?_⟩
  rw [Entry.pattern, matches_iff]
  decide +kernel

end Trial

end Entry

end EarlyBreak
