import EarlyBreak.Proofs.OutFiles.Pieces
import EarlyBreak.Proofs.Path.Folding

/-! The name at the end of a path and its stem, in bytes and in the text of the path.  Folding dots
leaves the name where it is.
-/

namespace EarlyBreak.Path

variable {p : Path} {name stem : List UInt8}

/-- The byte `.`. -/
def dot : UInt8 := 0x2E

/-- The stem of a file name: the name without the part from its last dot on, unless that dot comes
first.
-/
def HasStem (name stem : List UInt8) : Prop :=
  (stem ≠ [] ∧ ∃ extension, name = stem ++ dot :: extension ∧ dot ∉ extension)
  ∨ (stem = name ∧ dot ∉ name.tail)

theorem HasStem.append (hasStem : HasStem name stem)
    : ∃ ending, name = stem ++ ending ∧ (ending = [] ∨ ∃ rest, ending = dot :: rest) := by
  rcases hasStem with ⟨-, extension, rfl, -⟩ | ⟨rfl, -⟩
  · exact ⟨dot :: extension, rfl, Or.inr ⟨extension, rfl⟩⟩
  · exact ⟨[], (List.append_nil stem).symm, Or.inl rfl⟩

/-- The file name of a path is its last component, if that is a name. -/
theorem fileName?_eq_some_iff
    : p.fileName? = some name ↔ ∃ front, p.components = front ++ [.name name] := by
  rw [fileName?, ← List.getLast?_eq_some_iff]
  split
  case h_1 bytes last => simp [last]
  case h_2 other =>
    simp only [reduceCtorEq, false_iff]
    exact other name

theorem noSlash_of_fileName? (named : p.fileName? = some name) : slash ∉ name := by
  obtain ⟨front, whole⟩ := fileName?_eq_some_iff.mp named
  have member : Component.name name ∈ p.components := by
    rw [whole]
    exact List.mem_append_right front (List.mem_singleton_self _)
  exact not_mem_of_mem_splitOn (mem_splitOn_of_name member)

/-- A path in normal form is written with a slash before its name and nothing behind it. -/
theorem bytes_of_normal (absolute : p.isAbsolute = true) (normal : p.normalize = p)
    (named : p.fileName? = some name)
    : ∃ front, p.bytes = front ++ slash :: name := by
  have noSlash := noSlash_of_fileName? named
  obtain ⟨front, whole⟩ := fileName?_eq_some_iff.mp named
  -- Folding dots leaves the name where it is, at the end.
  have folded : foldDots p.components
      = (front.foldl foldDot []).reverse ++ [.name name] := by
    simp [foldDots, whole, foldDot]
  rw [normalize, folded, ofComponents_concat] at normal
  have joined : ((ofComponents (front.foldl foldDot []).reverse).join ⟨name⟩) = p := normal
  have nonempty : (ofComponents (front.foldl foldDot []).reverse).bytes ≠ [] := by
    intro empty
    rw [← joined, isAbsolute_join (isAbsolute_piece noSlash), isAbsolute, empty] at absolute
    cases absolute
  obtain ⟨above, bytes, -⟩ := join_name nonempty noSlash
  exact ⟨above, by rw [← joined, bytes]⟩

/-- So the text of such a path ends in a slash and the text of its name. -/
theorem text_of_normal {source : String} (absolute : (Path.ofString source).isAbsolute = true)
    (normal : (Path.ofString source).normalize = Path.ofString source)
    (named : (Path.ofString source).fileName? = some name)
    : ∃ folder text,
        source.toList = folder ++ '/' :: text
        ∧ Text.encoded text = name
        ∧ '/' ∉ text
        ∧ ∃ rest, source.toList = '/' :: rest := by
  obtain ⟨front, bytes⟩ := bytes_of_normal absolute normal named
  have spelled : Text.encoded source.toList = front ++ slash :: name := by
    rw [Text.encoded_toList]
    exact bytes
  obtain ⟨folder, text, cut, -, encoded⟩ :=
    Text.encoded_eq_append_cons (show '/'.toNat < 128 by decide) spelled
  refine ⟨folder, text, cut, encoded, ?_, ?_⟩
  · intro member
    obtain ⟨before, behind, rfl⟩ := List.append_of_mem member
    rw [Text.encoded_append, Text.encoded_cons_slash] at encoded
    refine noSlash_of_fileName? named (encoded ▸ ?_)
    exact List.mem_append_right _ List.mem_cons_self
  · rw [isAbsolute, Path.ofString, ← Text.encoded_toList, beq_iff_eq] at absolute
    exact Text.eq_slash_of_head? absolute

/-- The stem of a name is the stem of its text. -/
theorem HasStem.text {text : List Char} (hasStem : HasStem (Text.encoded text) stem)
    : ∃ start,
        Text.encoded start = stem
        ∧ ((start ≠ [] ∧ ∃ extension, text = start ++ '.' :: extension ∧ '.' ∉ extension)
          ∨ (start = text ∧ '.' ∉ text.tail)) := by
  have dot_mem {s : List Char} (member : '.' ∈ s) : dot ∈ Text.encoded s := by
    rw [Text.encoded_eq, List.mem_flatMap]
    exact ⟨'.', member, by decide⟩
  rcases hasStem with ⟨nonempty, extension, cut, last⟩ | ⟨rfl, only⟩
  · obtain ⟨start, behind, rfl, rfl, rfl⟩ :=
      Text.encoded_eq_append_cons (show '.'.toNat < 128 by decide) cut
    refine ⟨start, rfl, Or.inl ⟨?_, behind, rfl, mt dot_mem last⟩⟩
    rintro rfl
    exact nonempty rfl
  · refine ⟨text, rfl, Or.inr ⟨rfl, ?_⟩⟩
    cases text with
    | nil => exact List.not_mem_nil
    | cons c rest =>
        intro member
        have whole : Text.encoded (c :: rest)
            = String.utf8EncodeChar c ++ Text.encoded rest := by
          rw [Text.encoded_eq, Text.encoded_eq, List.flatMap_cons]
        rw [whole, List.tail_append_of_ne_nil String.utf8EncodeChar_ne_nil] at only
        exact only (List.mem_append_right _ (dot_mem member))

/-- A path that ends in neither a slash nor a dot leads to a name with the same end. -/
theorem placeFrom_concat {byte : UInt8} (noSlash : byte ≠ slash) (noDot : byte ≠ dot)
    (bytes : List UInt8) (start : Place)
    : ∃ folder name, placeFrom ⟨bytes ++ [byte]⟩ start = folder ++ [name ++ [byte]] := by
  have entered {name : List UInt8} (absent : slash ∉ name) (start : Place)
      : follow start ((steps ⟨name ++ [byte]⟩).filterMap Component.ofPiece?)
        = start ++ [name ++ [byte]] := by
    have unlike {other : List UInt8} (last : other.getLast? ≠ some byte)
        : name ++ [byte] ≠ other := by
      rintro rfl
      exact last List.getLast?_concat
    have clear : slash ∉ name ++ [byte] := by simp [absent, noSlash.symm]
    have dots : some dot ≠ some byte := fun same => noDot (Option.some.inj same).symm
    have plain : IsPlain (name ++ [byte]) := ⟨unlike nofun, clear, unlike dots, unlike dots⟩
    have idle : ¬ (name ++ [byte] = [] ∨ name ++ [byte] = dotName) :=
      not_or.mpr ⟨plain.nonempty, plain.noDot⟩
    rw [steps_piece clear, if_neg idle, filterMap_names (by simpa using plain), follow_names]
  rw [placeFrom_eq]
  by_cases cut : slash ∈ bytes
  · obtain ⟨above, name, rfl, absent⟩ := Text.exists_last_cut cut
    rw [List.append_assoc, List.cons_append, steps_slash, List.filterMap_append, follow_append,
      entered absent]
    exact ⟨_, name, rfl⟩
  · exact ⟨_, bytes, entered cut _⟩

/-- Paths with one normal form end alike. -/
theorem last_eq_of_normalize_eq {bytes others : List UInt8} {byte other : UInt8}
    (same : normalize ⟨bytes ++ [byte]⟩ = normalize ⟨others ++ [other]⟩)
    (noSlash : byte ≠ slash ∧ other ≠ slash) (noDot : byte ≠ dot ∧ other ≠ dot)
    : byte = other := by
  obtain ⟨folder, name, place⟩ := placeFrom_concat noSlash.1 noDot.1 bytes []
  obtain ⟨also, alike, otherPlace⟩ := placeFrom_concat noSlash.2 noDot.2 others []
  have places : folder ++ [name ++ [byte]] = also ++ [alike ++ [other]] := by
    rw [← place, ← otherPlace, ← (spells_normalize _).2, same, (spells_normalize _).2]
  have names := (List.append_singleton_inj.mp places).2
  exact (List.append_singleton_inj.mp names).2

/-- Texts of such paths end in the same character, as far as it is ASCII. -/
theorem lastChar_eq_of_normalize_eq {text more : List Char} {c ascii : Char}
    (same
      : (ofString (String.ofList (text ++ [c]))).normalize
        = (ofString (String.ofList (more ++ [ascii]))).normalize)
    (small : ascii.toNat < 128) (proper : c ∉ ['/', '.'] ∧ ascii ∉ ['/', '.'])
    : c = ascii := by
  have ends (text : List Char) {c : Char} (proper : c ∉ ['/', '.'])
      : ∃ bytes byte,
          ofString (String.ofList (text ++ [c])) = ⟨bytes ++ [byte]⟩
          ∧ byte ∈ String.utf8EncodeChar c
          ∧ byte ≠ slash
          ∧ byte ≠ dot := by
    obtain ⟨front, byte, cut⟩ :=
      (List.eq_nil_or_concat _).resolve_left (String.utf8EncodeChar_ne_nil (c := c))
    rw [List.concat_eq_append] at cut
    have member : byte ∈ String.utf8EncodeChar c := by simp [cut]
    refine ⟨Text.encoded text ++ front, byte, congrArg mk ?_, member, ?_, ?_⟩
    · have one : Text.encoded [c] = String.utf8EncodeChar c := by simp [Text.encoded_eq]
      rw [← Text.encoded, Text.encoded_append, one, cut, List.append_assoc]
    · rintro rfl
      exact proper (by simp [Text.eq_slash_of_mem member])
    · rintro rfl
      have period := Text.eq_of_mem_utf8EncodeChar (show '.'.toNat < 128 by decide) member
      exact proper (by simp [period])
  obtain ⟨bytes, byte, whole, member, noSlash, noDot⟩ := ends text proper.1
  obtain ⟨others, other, also, own, noSlashToo, noDotToo⟩ := ends more proper.2
  rw [whole, also] at same
  have last := last_eq_of_normalize_eq same ⟨noSlash, noSlashToo⟩ ⟨noDot, noDotToo⟩
  rw [Text.utf8EncodeChar_of_ascii small, List.mem_singleton] at own
  rw [last, own] at member
  exact Text.eq_of_mem_utf8EncodeChar small member

end EarlyBreak.Path
