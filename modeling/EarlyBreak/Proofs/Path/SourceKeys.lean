import EarlyBreak.ScriptUrl
import EarlyBreak.Proofs.Path.Folding
import EarlyBreak.Proofs.Text.Lossy

/-! The keys that sources are indexed under.  A key is written from the normal form of a path, with
slashes for backslashes and the drive in lower case.  It is itself in normal form exactly if those
slashes leave no dots to fold, which they may, since a backslash is part of a name before.
-/

namespace EarlyBreak

open OutFiles (slashed)

namespace Path

variable {p q : Path} {bytes : List UInt8} {byte first : UInt8} {name : FileName}
  {pieces mended : List (List UInt8)}

-----------------------------------------------------------------------------------------
-- Paths as texts
-----------------------------------------------------------------------------------------

/-- Bytes with replacement characters where they are not UTF-8. -/
def mend (bytes : List UInt8) : List UInt8 := Text.encoded (Text.replaceBroken bytes)

theorem ofString_text (p : Path) : Path.ofString p.text = ⟨mend p.bytes⟩ := by
  rw [Path.ofString, Path.text, Text.ofBytesLossy_eq]
  rfl

/-- Pieces are mended each on its own, since no slash is part of broken bytes. -/
theorem mend_intercalate (pieces : List (List UInt8))
    : mend ([slash].intercalate pieces) = [slash].intercalate (pieces.map mend) := by
  have cut := Text.replaceBroken_intercalate (by decide : '/'.toNat < 128) pieces
  have code : UInt8.ofNat '/'.toNat = slash := by decide
  rw [code] at cut
  rw [mend, cut, Text.encoded_intercalate, List.map_map]
  rfl

theorem mend_slash_cons (bytes : List UInt8) : mend (slash :: bytes) = slash :: mend bytes := by
  have read := Text.replaceBroken_ascii (by decide : '/'.toNat < 128) bytes
  have code : UInt8.ofNat '/'.toNat = slash := by decide
  rw [code] at read
  rw [mend, read, Text.encoded_cons_slash]
  rfl

theorem mend_eq_slash_cons {more : List UInt8} (starts : mend bytes = slash :: more)
    : ∃ rest, bytes = slash :: rest ∧ mend rest = more := by
  have head : (mend bytes).head? = some slash := by rw [starts]; rfl
  obtain ⟨text, read⟩ := Text.eq_slash_of_head? head
  obtain ⟨rest, rfl, -⟩ := Text.replaceBroken_eq_cons (by decide) read
  exact ⟨rest, rfl, (List.cons.inj ((mend_slash_cons rest).symm.trans starts)).2⟩

/-- Only ASCII bytes are mended to ASCII bytes. -/
theorem mend_eq_iff (text : List Char) (small : ∀ c ∈ text, c.toNat < 128)
    : mend bytes = Text.encoded text ↔ bytes = Text.encoded text := by
  constructor
  · intro same
    exact Text.replaceBroken_eq_ascii small (Text.encoded_injective same)
  · rintro rfl
    rw [mend, Text.replaceBroken_encoded]

theorem slash_mem_mend_iff : slash ∈ mend bytes ↔ slash ∈ bytes := by
  have ascii : '/'.toNat < 128 := by decide
  exact (Text.mem_encoded_iff ascii).trans (Text.mem_replaceBroken_iff ascii)

theorem isPlain_mend_iff : IsPlain (mend name) ↔ IsPlain name := by
  have empty : mend name = [] ↔ name = [] := mend_eq_iff [] nofun
  have dot : mend name = dotName ↔ name = dotName := mend_eq_iff ['.'] (by simp)
  have dotDot : mend name = dotDotName ↔ name = dotDotName := mend_eq_iff ['.', '.'] (by simp)
  constructor
  · intro plain
    exact ⟨mt empty.mpr plain.nonempty, mt slash_mem_mend_iff.mpr plain.noSlash,
      mt dot.mpr plain.noDot, mt dotDot.mpr plain.noDotDot⟩
  · intro plain
    exact ⟨mt empty.mp plain.nonempty, mt slash_mem_mend_iff.mp plain.noSlash,
      mt dot.mp plain.noDot, mt dotDot.mp plain.noDotDot⟩

/-- Mended pieces between slashes come from pieces between slashes. -/
theorem exists_pieces_of_mend (free : ∀ piece ∈ mended, slash ∉ piece)
    (cut : mend bytes = [slash].intercalate mended)
    : ∃ pieces, bytes = [slash].intercalate pieces ∧ pieces.map mend = mended := by
  by_cases none : mended = []
  · subst none
    have empty : bytes = [] := (mend_eq_iff [] nofun).mp cut
    exact ⟨[], empty, rfl⟩
  · refine ⟨bytes.splitOn slash, (List.intercalate_splitOn slash).symm, ?_⟩
    have whole := mend_intercalate (bytes.splitOn slash)
    rw [List.intercalate_splitOn, cut] at whole
    have parts : ∀ piece ∈ (bytes.splitOn slash).map mend, slash ∉ piece := by
      intro piece member
      obtain ⟨part, among, rfl⟩ := List.mem_map.mp member
      exact mt slash_mem_mend_iff.mp (not_mem_of_mem_splitOn among)
    have some : (bytes.splitOn slash).map mend ≠ [] :=
      mt List.map_eq_nil_iff.mp (List.splitOn_ne_nil slash bytes)
    rw [← List.splitOn_intercalate slash free none, whole,
      List.splitOn_intercalate slash parts some]

theorem map_mend_parents_iff {pieces : List (List UInt8)} (ups : Nat)
    : pieces.map mend = List.replicate ups dotDotName ↔ pieces = List.replicate ups dotDotName := by
  have dotDot (piece : List UInt8) : mend piece = dotDotName ↔ piece = dotDotName :=
    mend_eq_iff ['.', '.'] (by simp)
  simp only [List.eq_replicate_iff, List.length_map, List.forall_mem_map, dotDot]

theorem forall_isPlain_map_mend_iff {names : List FileName}
    : (∀ name ∈ names.map mend, IsPlain name) ↔ ∀ name ∈ names, IsPlain name := by
  simp only [List.forall_mem_map, isPlain_mend_iff]

/-- A path is in normal form exactly if the path that its text spells is. -/
theorem isNormal_ofString_text_iff : (Path.ofString p.text).IsNormal ↔ p.IsNormal := by
  rw [ofString_text]
  constructor
  · intro normal
    generalize spelled : (⟨mend p.bytes⟩ : Path) = q at normal
    cases normal with
    | absolute names plain =>
        obtain ⟨rest, bytes, behind⟩ := mend_eq_slash_cons (congrArg Path.bytes spelled)
        obtain ⟨pieces, rfl, rfl⟩ :=
          exists_pieces_of_mend (fun name member => (plain name member).noSlash) behind
        have normal := IsNormal.absolute pieces (forall_isPlain_map_mend_iff.mp plain)
        rwa [← bytes] at normal
    | relative ups names plain =>
        have bytes := congrArg Path.bytes spelled
        have free := isStep_of_relative plain ups
        obtain ⟨pieces, cut, same⟩ :=
          exists_pieces_of_mend (fun piece member => (free piece member).2.1) bytes
        obtain ⟨front, back, rfl, parents, rfl⟩ := List.map_eq_append_iff.mp same
        obtain rfl := (map_mend_parents_iff ups).mp parents
        have normal := IsNormal.relative ups back (forall_isPlain_map_mend_iff.mp plain)
        rwa [← cut] at normal
  · intro normal
    cases normal with
    | absolute names plain =>
        rw [mend_slash_cons, mend_intercalate]
        exact .absolute _ (forall_isPlain_map_mend_iff.mpr plain)
    | relative ups names plain =>
        rw [mend_intercalate, List.map_append, (map_mend_parents_iff ups).mpr rfl]
        exact .relative ups _ (forall_isPlain_map_mend_iff.mpr plain)

/-- The pieces of a path in normal form have no dots but leading `..`. -/
theorem IsNormal.exists_splitOn (normal : p.IsNormal)
    : ∃ ups behind,
        p.bytes.splitOn slash = List.replicate ups dotDotName ++ behind
        ∧ dotName ∉ behind
        ∧ dotDotName ∉ behind := by
  cases normal with
  | absolute names plain =>
      cases names with
      | nil => exact ⟨0, [[], []], by decide, by decide, by decide⟩
      | cons name names =>
          have whole : slash :: [slash].intercalate (name :: names)
              = [slash].intercalate ([] :: name :: names) := rfl
          have free : ∀ piece ∈ [] :: name :: names, slash ∉ piece :=
            List.forall_mem_cons.mpr ⟨nofun, fun piece member => (plain piece member).noSlash⟩
          refine ⟨0, [] :: name :: names, ?_, ?_, ?_⟩
          · rw [whole, List.splitOn_intercalate slash free (List.cons_ne_nil _ _)]
            rfl
          · intro member
            exact (plain _ (List.mem_of_ne_of_mem (by decide) member)).noDot rfl
          · intro member
            exact (plain _ (List.mem_of_ne_of_mem (by decide) member)).noDotDot rfl
  | relative ups names plain =>
      by_cases none : List.replicate ups dotDotName ++ names = []
      · rw [none]
        exact ⟨0, [[]], by decide, by decide, by decide⟩
      · have isStep := isStep_of_relative plain ups
        have cut :=
          List.splitOn_intercalate slash (fun piece member => (isStep piece member).2.1) none
        exact ⟨ups, names, cut, fun member => (plain _ member).noDot rfl,
          fun member => (plain _ member).noDotDot rfl⟩

-----------------------------------------------------------------------------------------
-- Backslashes and drives
-----------------------------------------------------------------------------------------

/-- The byte of a backslash. -/
def backslash : UInt8 := 0x5C

/-- A path with slashes for its backslashes. -/
def slashed (p : Path) : Path :=
  ⟨p.bytes.map fun byte => if byte = backslash then slash else byte⟩

theorem text_slashed (p : Path) : p.slashed.text.toList = OutFiles.slashed p.text.toList := by
  have read := Text.replaceBroken_map (by decide : '\\'.toNat < 128) (by decide : '/'.toNat < 128)
    p.bytes
  rw [Path.text, Path.text, Text.ofBytesLossy_eq, Text.ofBytesLossy_eq, String.toList_ofList,
    String.toList_ofList]
  exact read

theorem slashed_eq_self (absent : backslash ∉ p.bytes) : p.slashed = p := by
  rw [slashed, Text.map_of_not_mem absent]

/-- The places that components lead to have no other names than the start and the components. -/
theorem mem_follow {start : Place} {components : List Component}
    (member : name ∈ follow start components)
    : name ∈ start ∨ .name name ∈ components := by
  induction components generalizing start with
  | nil => exact Or.inl member
  | cons component components ih =>
      rcases ih member with entered | later
      · cases component with
        | root => cases entered
        | here => exact Or.inl entered
        | parent => exact Or.inl (List.dropLast_subset _ entered)
        | name bytes =>
            rcases List.mem_append.mp entered with before | here
            · exact Or.inl before
            · rw [List.mem_singleton.mp here]
              exact Or.inr List.mem_cons_self
      · exact Or.inr (List.mem_cons_of_mem _ later)

/-- Folding dots writes nothing but slashes, dots and what names are written with. -/
theorem mem_of_mem_normalize (noSlash : byte ≠ slash) (noDot : byte ∉ dotDotName)
    (member : byte ∈ p.normalize.bytes)
    : byte ∈ p.bytes := by
  obtain ⟨normal, places⟩ := spells_normalize p
  have inside (name : FileName) (among : name ∈ p.normalize.placeFrom []) (within : byte ∈ name)
      : byte ∈ p.bytes := by
    rw [places] at among
    rcases mem_follow among with none | component
    · cases none
    · exact Text.mem_of_mem_splitOn (mem_splitOn_of_name component) within
  generalize p.normalize = q at normal member inside
  cases normal with
  | absolute names plain =>
      rw [placeFrom_absolute plain] at inside
      rcases List.mem_cons.mp member with same | later
      · exact absurd same noSlash
      · rcases Text.mem_intercalate later with same | ⟨name, among, within⟩
        · exact absurd same noSlash
        · exact inside name among within
  | relative ups names plain =>
      rw [placeFrom_relative plain] at inside
      rcases Text.mem_intercalate member with same | ⟨piece, among, within⟩
      · exact absurd same noSlash
      · rcases List.mem_append.mp among with up | named
        · rw [List.eq_of_mem_replicate up] at within
          exact absurd within noDot
        · exact inside piece (List.mem_append_right _ named) within

theorem backslash_not_mem_normalize (absent : backslash ∉ p.bytes)
    : backslash ∉ p.normalize.bytes :=
  mt (mem_of_mem_normalize (by decide) (by decide)) absent

/-- A drive stands at the start of a name, and the names behind it do not depend on its letter. -/
theorem isNormal_drive_iff {colon : UInt8} (firstNoSlash : first ≠ slash)
    (colonNoSlash : colon ≠ slash) (colonNoDot : colon ≠ 0x2E)
    : IsNormal ⟨first :: colon :: bytes⟩
      ↔ ∃ (name : FileName) (names : List FileName),
          bytes = name ++ names.flatMap (slash :: ·)
          ∧ slash ∉ name
          ∧ ∀ other ∈ names, IsPlain other := by
  constructor
  · intro normal
    generalize spelled : (⟨first :: colon :: bytes⟩ : Path) = q at normal
    cases normal with
    | absolute names plain =>
        exact absurd (List.cons.inj (congrArg Path.bytes spelled)).1 firstNoSlash
    | relative ups names plain =>
        have written := congrArg Path.bytes spelled
        cases ups with
        | succ ups =>
            rw [List.replicate_succ, List.cons_append, Text.intercalate_cons] at written
            exact absurd (List.cons.inj (List.cons.inj written).2).1 colonNoDot
        | zero =>
            rw [List.replicate_zero, List.nil_append] at written
            cases names with
            | nil => cases written
            | cons name names =>
                rw [Text.intercalate_cons] at written
                obtain ⟨here, others⟩ := List.forall_mem_cons.mp plain
                -- The first name is too short for a drive only if a slash comes for the colon.
                rcases name with _ | ⟨letter, _ | ⟨second, name⟩⟩
                · exact absurd rfl here.nonempty
                · cases names with
                  | nil => cases (List.cons.inj written).2
                  | cons next names =>
                      exact absurd (List.cons.inj (List.cons.inj written).2).1 colonNoSlash
                · have noSlash := here.noSlash
                  simp only [List.mem_cons, not_or] at noSlash
                  exact ⟨name, names, (List.cons.inj (List.cons.inj written).2).2, noSlash.2.2,
                    others⟩
  · rintro ⟨name, names, rfl, noSlash, plain⟩
    have drive : IsPlain (first :: colon :: name) :=
      ⟨nofun, by simp [firstNoSlash.symm, colonNoSlash.symm, noSlash], nofun,
        fun same => colonNoDot (List.cons.inj (List.cons.inj same).2).1⟩
    have normal := IsNormal.relative 0 ((first :: colon :: name) :: names)
      (List.forall_mem_cons.mpr ⟨drive, plain⟩)
    rwa [List.replicate_zero, List.nil_append, Text.intercalate_cons] at normal

end Path

namespace ScriptUrl

open EarlyBreak.Path (backslash IsNormal)

variable {p q : Path} {text : List Char} {key : String}

/-- A text with its drive in lower case. -/
def lowerDrive : List Char → List Char
  | letter :: ':' :: rest =>
      (if Text.isAsciiLetter letter then Text.lowerAscii letter else letter) :: ':' :: rest
  | text => text

theorem forwardSlashes_eq (text : List Char)
    : forwardSlashes text = lowerDrive (OutFiles.slashed text) :=
  rfl

/-- Only a letter in front of a colon is changed. -/
theorem lowerDrive_cases (text : List Char)
    : lowerDrive text = text
      ∨ ∃ letter rest,
          text = letter :: ':' :: rest
          ∧ lowerDrive text = Text.lowerAscii letter :: ':' :: rest
          ∧ Text.isAsciiLetter letter = true := by
  unfold lowerDrive
  split
  case h_1 letter rest =>
    split
    case isTrue isLetter => exact Or.inr ⟨letter, rest, rfl, rfl, isLetter⟩
    case isFalse => exact Or.inl rfl
  case h_2 => exact Or.inl rfl

theorem lowerDrive_lowerDrive (text : List Char)
    : lowerDrive (lowerDrive text) = lowerDrive text := by
  rcases lowerDrive_cases text with same | ⟨letter, rest, -, lowered, isLetter⟩
  · rw [same, same]
  · rw [lowered, lowerDrive, Text.lowerAscii_lowerAscii, ite_self]

/-- The drive makes no difference to the normal form. -/
theorem isNormal_lowerDrive_iff (text : List Char)
    : (Path.ofString (String.ofList (lowerDrive text))).IsNormal
      ↔ (Path.ofString (String.ofList text)).IsNormal := by
  rcases lowerDrive_cases text with same | ⟨letter, rest, rfl, lowered, isLetter⟩
  · rw [same]
  · have letters := Text.isAsciiLetter_iff.mp isLetter
    have lowerLetters := Text.lowerAscii_of_letter isLetter
    have bytes (letter : Char) (small : letter.toNat ≤ 122)
        : Path.ofString (String.ofList (letter :: ':' :: rest))
          = ⟨UInt8.ofNat letter.toNat :: 0x3A :: Text.encoded rest⟩ := by
      have written := Text.utf8EncodeChar_of_ascii (Nat.lt_of_le_of_lt small (by decide))
      have colon : String.utf8EncodeChar ':' = [0x3A] := by decide
      rw [Path.ofString, ← Text.encoded, Text.encoded_eq, List.flatMap_cons, List.flatMap_cons,
        written, colon, Text.encoded_eq]
      rfl
    have noSlash (letter : Char) (large : 65 ≤ letter.toNat) (small : letter.toNat ≤ 122)
        : UInt8.ofNat letter.toNat ≠ Path.slash := by
      intro same
      have number := congrArg UInt8.toNat same
      rw [UInt8.toNat_ofNat_of_lt' (show letter.toNat < 256 by omega)] at number
      have slash : Path.slash.toNat = 47 := rfl
      omega
    rw [lowered, bytes _ (by omega), bytes _ (by omega),
      Path.isNormal_drive_iff (noSlash _ (by omega) (by omega)) (by decide) (by decide),
      Path.isNormal_drive_iff (noSlash _ (by omega) (by omega)) (by decide) (by decide)]

/-- A source key is the text of the folded path with slashes, its drive in lower case. -/
theorem sourceKey_toList (p : Path)
    : (sourceKey p).toList = lowerDrive p.normalize.slashed.text.toList := by
  rw [Path.text_slashed, sourceKey, foldCase, String.toList_ofList, forwardSlashes_eq]

/-- A source key is in normal form exactly if the folded path with slashes is. -/
theorem isNormal_sourceKey_iff
    : (Path.ofString (sourceKey p)).IsNormal ↔ p.normalize.slashed.IsNormal := by
  have text := isNormal_lowerDrive_iff p.normalize.slashed.text.toList
  rwa [← sourceKey_toList, String.ofList_toList, String.ofList_toList,
    Path.isNormal_ofString_text_iff] at text

theorem backslash_not_mem_lowerDrive {text : List Char} (absent : '\\' ∉ text)
    : '\\' ∉ lowerDrive text := by
  rcases lowerDrive_cases text with same | ⟨letter, rest, whole, lowered, isLetter⟩
  · rwa [same]
  · rw [lowered]
    rw [whole] at absent
    have letters := Text.lowerAscii_of_letter isLetter
    intro member
    rcases List.mem_cons.mp member with same | later
    · rw [← same] at letters
      exact absurd letters (by decide)
    · exact absent (List.mem_cons_of_mem letter later)

theorem backslash_not_mem_sourceKey (p : Path) : '\\' ∉ (sourceKey p).toList := by
  rw [sourceKey_toList, Path.text_slashed]
  exact backslash_not_mem_lowerDrive fun member => (OutFiles.mem_slashed member).1 rfl

/-- A key in canonical form: its segments are divided by slashes, those that are dots are leading
`..` of a relative path, and it is its own key.
-/
structure IsCanonical (key : String) : Prop where
  separators : '\\' ∉ key.toList
  dots : ∃ ups rest,
    key.toList.splitOn '/' = List.replicate ups ['.', '.'] ++ rest
    ∧ ['.'] ∉ rest
    ∧ ['.', '.'] ∉ rest
  fixed : sourceKey (Path.ofString key) = key

theorem backslash_not_mem_ofString (separators : '\\' ∉ key.toList)
    : backslash ∉ (Path.ofString key).bytes := by
  rw [Path.ofString, ← Text.encoded_toList]
  exact mt (Text.mem_encoded_iff (by decide : '\\'.toNat < 128)).mp separators

theorem IsCanonical.isNormal (canonical : IsCanonical key)
    : (Path.ofString key).IsNormal := by
  have absent := Path.backslash_not_mem_normalize (backslash_not_mem_ofString canonical.separators)
  rw [← canonical.fixed, isNormal_sourceKey_iff, Path.slashed_eq_self absent]
  exact (Path.spells_normalize _).1

/-- In a normal key the steps up come first, and no dots come after them. -/
theorem dots_of_isNormal (normal : (Path.ofString key).IsNormal)
    : ∃ ups rest,
        key.toList.splitOn '/' = List.replicate ups ['.', '.'] ++ rest
        ∧ ['.'] ∉ rest
        ∧ ['.', '.'] ∉ rest := by
  obtain ⟨ups, behind, cut, noDot, noDotDot⟩ := normal.exists_splitOn
  rw [Path.ofString, ← Text.encoded_toList, Text.splitOn_encoded] at cut
  obtain ⟨front, rest, whole, parents, rfl⟩ := List.map_eq_append_iff.mp cut
  have same : front.map Text.encoded = (List.replicate ups ['.', '.']).map Text.encoded := by
    rw [parents, List.map_replicate]
    rfl
  have injective : Function.Injective Text.encoded := fun _ _ => Text.encoded_injective
  refine ⟨ups, rest, ?_, ?_, ?_⟩
  · rw [whole, List.map_injective_iff.mpr injective same]
  · exact fun member => noDot (List.mem_map_of_mem member)
  · exact fun member => noDotDot (List.mem_map_of_mem member)

theorem isCanonical_of_isNormal (normal : (Path.ofString key).IsNormal)
    (separators : '\\' ∉ key.toList) (lower : lowerDrive key.toList = key.toList)
    : IsCanonical key := by
  refine ⟨separators, dots_of_isNormal normal, ?_⟩
  have slashed := Path.slashed_eq_self (backslash_not_mem_ofString separators)
  have text : (Path.ofString key).text = key := Text.ofBytesLossy_toBytes key
  rw [← String.toList_inj, sourceKey_toList, normal.normalize_eq, slashed, text, lower]

/-- A source key is canonical exactly if its path is still folded once its backslashes are slashes.
-/
theorem isCanonical_sourceKey_iff
    : IsCanonical (sourceKey p) ↔ p.normalize.slashed.IsNormal := by
  rw [← isNormal_sourceKey_iff]
  constructor
  · exact IsCanonical.isNormal
  · intro normal
    refine isCanonical_of_isNormal normal (backslash_not_mem_sourceKey p) ?_
    rw [sourceKey_toList, lowerDrive_lowerDrive]

/-- A path whose dots may be folded before or after its backslashes count as slashes. -/
def IsUniform (p : Path) : Prop := p.normalize.slashed = p.slashed.normalize

theorem isUniform_of_not_mem (absent : backslash ∉ p.bytes) : IsUniform p := by
  rw [IsUniform, Path.slashed_eq_self absent,
    Path.slashed_eq_self (Path.backslash_not_mem_normalize absent)]

theorem IsUniform.isCanonical (isUniform : IsUniform p) : IsCanonical (sourceKey p) := by
  rw [isCanonical_sourceKey_iff, isUniform]
  exact (Path.spells_normalize _).1

/-- Uniform paths that lead to one place from everywhere have one key. -/
theorem IsUniform.sourceKey_eq (isUniform : IsUniform p) (also : IsUniform q)
    (same : ∀ start, p.slashed.placeFrom start = q.slashed.placeFrom start)
    : sourceKey p = sourceKey q := by
  rw [← String.toList_inj, sourceKey_toList, sourceKey_toList, isUniform, also,
    Path.normalize_congr same]

/-- A key has slashes only, and it is in canonical form exactly if the normal form of the path has
no dots to fold once its backslashes count as slashes.  Where folding first makes no difference,
as in every path without backslashes, that is so, and paths that lead to the same place from
everywhere once their backslashes count as slashes have one key.
-/
theorem sourceKey_folds (p : Path)
    : '\\' ∉ (sourceKey p).toList
      ∧ (IsCanonical (sourceKey p) ↔ p.normalize.slashed.IsNormal)
      ∧ (IsUniform p →
          IsCanonical (sourceKey p)
          ∧ ∀ q,
              IsUniform q →
              (∀ start, p.slashed.placeFrom start = q.slashed.placeFrom start) →
              sourceKey p = sourceKey q)
      ∧ (backslash ∉ p.bytes → IsUniform p) := by
  refine ⟨backslash_not_mem_sourceKey p, isCanonical_sourceKey_iff, ?_, isUniform_of_not_mem⟩
  intro isUniform
  exact ⟨isUniform.isCanonical, fun q => isUniform.sourceKey_eq⟩

/-- Between backslashes dots are not folded, though they are dots of the key. -/
theorem sourceKey_backslashes
    : let source := Path.ofString "C:\\work\\src\\..\\a.ts"
      sourceKey source = "c:/work/src/../a.ts"
      ∧ ¬ IsCanonical (sourceKey source)
      ∧ sourceKey source.slashed = "c:/work/a.ts" := by
  have key : sourceKey (Path.ofString "C:\\work\\src\\..\\a.ts") = "c:/work/src/../a.ts" := by
    decide +kernel
  refine ⟨key, ?_, by decide +kernel⟩
  intro canonical
  have fixed := canonical.fixed
  rw [key] at fixed
  exact absurd fixed (by decide +kernel)

end ScriptUrl

end EarlyBreak
