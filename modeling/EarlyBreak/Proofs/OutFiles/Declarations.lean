import EarlyBreak.OutFiles.Scan
import EarlyBreak.Proofs.Text.Cuts
import EarlyBreak.Proofs.Text.Lossy
import Mathlib

/-! Which map a compiled file declares.  The file is read line by line, each line with its end and
whatever its bytes; what is read is the declaration of the last line that has one, and no other line
makes a difference.
-/

namespace EarlyBreak.OutFiles

variable {contents changed line held : List UInt8} {declared : Option String} {url : String}

/-- The lines of a file, without their ends. -/
def lines (contents : List UInt8) : List (List UInt8) := contents.splitOn lineEnd

theorem replaceBroken_lineEnd (line : List UInt8)
    : Text.replaceBroken (line ++ [lineEnd]) = Text.replaceBroken line ++ ['\n'] := by
  have small : '\n'.toNat < 128 := by decide
  have cut := Text.replaceBroken_append_cons small line []
  rwa [Text.replaceBroken_nil] at cut

/-- A line declares the same with its end and without. -/
theorem declaredBy?_lineEnd (line : List UInt8)
    : declaredBy? (line ++ [lineEnd]) = declaredBy? line := by
  have blank : Text.isBlank '\n' = true := by decide
  simp only [declaredBy?, declaredMap?, Text.ofBytesLossy_eq, String.toList_ofList,
    replaceBroken_lineEnd, Text.trimChars_concat blank]

theorem declaredBy?_nil : declaredBy? [] = none := by decide

theorem lines_of_not_mem (single : lineEnd ∉ line) : lines line = [line] :=
  List.splitOn_eq_singleton single

theorem lines_append (before after : List UInt8)
    : lines (before ++ lineEnd :: after) = lines before ++ lines after :=
  List.splitOn_append_cons_self before after

/-- What is read is what the last line that declares a map declares, by induction on the bytes; a
line that was begun is one with the bytes up to the next end.
-/
theorem readDeclaration_eq (bytes : List UInt8) (begun : lineEnd ∉ held)
    : readDeclaration declared held bytes
      = ((lines (held.reverse ++ bytes)).reverse.findSome? declaredBy?).or declared := by
  induction bytes generalizing declared held with
  | nil =>
      rw [readDeclaration, List.append_nil, lines_of_not_mem (mt List.mem_reverse.mp begun),
        List.reverse_singleton, List.findSome?_singleton]
      split
      case isTrue empty => rw [empty, List.reverse_nil, declaredBy?_nil, Option.none_or]
      case isFalse => rfl
  | cons byte rest ih =>
      rw [readDeclaration]
      split
      case isTrue same =>
        subst same
        rw [ih List.not_mem_nil, List.reverse_nil, List.nil_append, afterLine, List.reverse_cons,
          declaredBy?_lineEnd, lines_append, lines_of_not_mem (mt List.mem_reverse.mp begun),
          List.reverse_append, List.findSome?_append, List.reverse_singleton,
          List.findSome?_singleton, Option.or_assoc]
      case isFalse other =>
        -- The line goes on; its bytes are held in reverse.
        have still : lineEnd ∉ byte :: held := by
          rw [List.mem_cons, not_or]
          exact ⟨Ne.symm other, begun⟩
        rw [ih still, List.reverse_cons, List.append_assoc, List.singleton_append]

/-- The declaration of a file is found from its end. -/
theorem lastDeclaration?_eq (contents : List UInt8)
    : lastDeclaration? contents = (lines contents).reverse.findSome? declaredBy? := by
  rw [lastDeclaration?, readDeclaration_eq contents List.not_mem_nil, Option.or_none]
  rfl

/-- A file has the map that a line declares behind which no other line declares one. -/
def Declares (contents : List UInt8) (url : String) : Prop :=
  ∃ before line after,
    lines contents = before ++ line :: after
    ∧ declaredBy? line = some url
    ∧ ∀ other ∈ after, declaredBy? other = none

/-- What is read last is what the contents declare. -/
theorem lastDeclaration?_eq_some_iff
    : lastDeclaration? contents = some url ↔ Declares contents url := by
  rw [lastDeclaration?_eq, List.findSome?_eq_some_iff]
  constructor
  · rintro ⟨after, line, before, split, found, silent⟩
    refine ⟨before.reverse, line, after.reverse, ?_, found, ?_⟩
    · rw [← List.reverse_inj, split]
      simp
    · exact fun other member => silent other (List.mem_reverse.mp member)
  · rintro ⟨before, line, after, split, found, silent⟩
    refine ⟨after.reverse, line, before.reverse, ?_, found, ?_⟩
    · rw [split]
      simp
    · exact fun other member => silent other (List.mem_reverse.mp member)

theorem lastDeclaration?_eq_none_iff
    : lastDeclaration? contents = none ↔ ∀ line ∈ lines contents, declaredBy? line = none := by
  rw [lastDeclaration?_eq, List.findSome?_eq_none_iff]
  simp only [List.mem_reverse]

/-- One line is changed that does not decide.  In its place stand lines that declare no map, or no
lines at all.
-/
def ChangesLine (contents changed : List UInt8) : Prop :=
  ∃ before line after others,
    lines contents = before ++ line :: after
    ∧ lines changed = before ++ others ++ after
    ∧ (declaredBy? line = none ∨ ∃ later ∈ after, declaredBy? later ≠ none)
    ∧ ∀ other ∈ others, declaredBy? other = none

/-- Such a change does not matter to what is declared last. -/
theorem ChangesLine.lastDeclaration?_eq (change : ChangesLine contents changed)
    : lastDeclaration? changed = lastDeclaration? contents := by
  obtain ⟨before, line, after, others, old, new, idle, silent⟩ := change
  have nothing : others.reverse.findSome? declaredBy? = none :=
    List.findSome?_eq_none_iff.mpr fun other member => silent other (List.mem_reverse.mp member)
  have hidden : (after.reverse.findSome? declaredBy?).or (declaredBy? line)
      = after.reverse.findSome? declaredBy? := by
    rcases idle with quiet | ⟨later, behind, loud⟩
    · rw [quiet, Option.or_none]
    · refine Option.or_of_isSome (List.findSome?_isSome_iff.mpr ⟨later, ?_, ?_⟩)
      · exact List.mem_reverse.mpr behind
      · exact Option.isSome_iff_ne_none.mpr loud
  rw [OutFiles.lastDeclaration?_eq, OutFiles.lastDeclaration?_eq, old, new]
  simp only [List.reverse_append, List.reverse_cons, List.findSome?_append, nothing,
    List.findSome?_singleton, Option.none_or, Option.or_assoc]
  rw [← Option.or_assoc, hidden]

/-- Nor do any number of such changes, by induction on them. -/
theorem lastDeclaration?_of_changes
    (changes : Relation.ReflTransGen ChangesLine contents changed)
    : lastDeclaration? changed = lastDeclaration? contents := by
  induction changes with
  | refl => rfl
  | tail _ change ih => rw [change.lastDeclaration?_eq, ih]

variable {tree : FileTree} {path : Path} {script : ByteArray} {modified : Int}

/-- A script is inspected by what its contents declare last, and nothing else in them. -/
theorem inspect?_of_file (leads : tree.node? path = .ok (.file script modified))
    : inspect? tree path
      = .ok do
          let declared ← lastDeclaration? script.data.toList
          return ⟨path, ← mapUrl? path declared, modified.toNat⟩ := by
  simp only [inspect?, FileTree.read?, FileTree.modified?, leads, bind, Except.bind, pure,
    Except.pure]

/-- The map of a compiled file is the one that the last line with a declaration declares, seen from
the file, and a file without such a line has none.  Any other line may be changed to bytes that
declare none, however often.
-/
theorem last_line_decides (leads : tree.node? path = .ok (.file script modified))
    : (∀ file,
        inspect? tree path = .ok (some file)
          ↔ ∃ declared url,
              Declares script.data.toList declared
              ∧ mapUrl? path declared = some url
              ∧ file = ⟨path, url, modified.toNat⟩)
      ∧ ((∀ line ∈ lines script.data.toList, declaredBy? line = none)
          → inspect? tree path = .ok none)
      ∧ ∀ (other : FileTree) (changed : ByteArray),
          other.node? path = .ok (.file changed modified)
          → Relation.ReflTransGen ChangesLine script.data.toList changed.data.toList
          → inspect? other path = inspect? tree path := by
  have read := inspect?_of_file leads
  refine ⟨fun file => ?_, fun silent => ?_, fun other changed there changes => ?_⟩
  · simp only [read, Except.ok.injEq, bind, Option.bind_eq_some_iff, lastDeclaration?_eq_some_iff,
      pure, Option.some.injEq]
    constructor
    · rintro ⟨declared, declares, url, seen, rfl⟩
      exact ⟨declared, url, declares, seen, rfl⟩
    · rintro ⟨declared, url, declares, seen, rfl⟩
      exact ⟨declared, declares, url, seen, rfl⟩
  · rw [read, lastDeclaration?_eq_none_iff.mpr silent]
    rfl
  · rw [read, inspect?_of_file there, lastDeclaration?_of_changes changes]

section Sample

/-- A file with these lines. -/
def scriptOf (lines : List (List UInt8)) : ByteArray := ⟨([lineEnd].intercalate lines).toArray⟩

def scriptPath : Path := Path.ofString "/w/a.js"

def scriptTree (lines : List (List UInt8)) : FileTree :=
  ⟨.folder [(Text.toBytes "w", .folder [(Text.toBytes "a.js", .file (scriptOf lines) 5)])], []⟩

theorem node?_scriptTree (lines : List (List UInt8))
    : (scriptTree lines).node? scriptPath = .ok (.file (scriptOf lines) 5) := by
  cbv

/-- A file with two comments, a byte between them that is not UTF-8, and line ends of two bytes; the
same file with other such bytes there and without the end of the last line; and a file of such bytes
alone.
-/
theorem last_line_decides_latin1
    : let first := Text.toBytes "//# sourceMappingURL=app:a.map\r"
      let second := Text.toBytes "\t//@ sourceMappingURL=app:b.map \r"
      let tree := scriptTree [first, [0xA7], second, []]
      let changed := scriptTree [first, [0xE2, 0x82, 0x0D], second]
      inspect? tree scriptPath = .ok (some ⟨scriptPath, "app:b.map", 5⟩)
      ∧ inspect? changed scriptPath = inspect? tree scriptPath
      ∧ inspect? (scriptTree [[0xA7, 0x0D], []]) scriptPath = .ok none := by
  intro first second tree changed
  have cut : lines (scriptOf [first, [0xA7], second, []]).data.toList
        = [first, [0xA7]] ++ second :: [[]]
      ∧ lines (scriptOf [first, [0xE2, 0x82, 0x0D], second, []]).data.toList
        = [first] ++ [[0xE2, 0x82, 0x0D]] ++ [second, []]
      ∧ lines (scriptOf [first, [0xE2, 0x82, 0x0D], second]).data.toList
        = [first, [0xE2, 0x82, 0x0D], second] ++ [] ++ [] := by
    decide +kernel
  have said : declaredBy? second = some "app:b.map"
      ∧ declaredBy? [0xA7] = none
      ∧ declaredBy? [0xE2, 0x82, 0x0D] = none
      ∧ (∀ line ∈ lines (scriptOf [[0xA7, 0x0D], []]).data.toList, declaredBy? line = none)
      ∧ mapUrl? scriptPath "app:b.map" = some "app:b.map" := by
    decide +kernel
  obtain ⟨whole, bent, short⟩ := cut
  obtain ⟨loud, quiet, broken, silent, absolute⟩ := said
  have decides := last_line_decides (node?_scriptTree [first, [0xA7], second, []])
  have last : ∀ other ∈ [([] : List UInt8)], declaredBy? other = none := by
    simpa using declaredBy?_nil
  refine ⟨(decides.1 _).mpr ⟨_, _, ⟨_, second, _, whole, loud, last⟩, absolute, rfl⟩, ?_, ?_⟩
  · refine decides.2.2 _ _ (node?_scriptTree [first, [0xE2, 0x82, 0x0D], second]) ?_
    refine .tail (.single ⟨[first], [0xA7], [second, []], [[0xE2, 0x82, 0x0D]], whole, bent,
      .inl quiet, by simpa using broken⟩) ?_
    exact ⟨[first, [0xE2, 0x82, 0x0D], second], [], [], [], bent, short, .inl declaredBy?_nil,
      by simp⟩
  · exact (last_line_decides (node?_scriptTree [[0xA7, 0x0D], []])).2.1 silent

end Sample

end EarlyBreak.OutFiles
