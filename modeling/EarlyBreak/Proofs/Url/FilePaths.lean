import EarlyBreak.Proofs.Path.Folding
import EarlyBreak.Proofs.Text.Cuts
import EarlyBreak.Proofs.Url.FileNames

/-! The file URL of a path read back.  Reading a URL takes a text apart, folds dots and watches for
drives; on the URL of a path in normal form all of it comes to nothing, since names are written with
escapes for whatever would count.
-/

namespace EarlyBreak.Url

open OutFiles (behindSlashes)
open EarlyBreak.Path (slash dotName dotDotName)

variable {c : Char} {bytes name : List UInt8} {segment : List Char} {segments : List (List Char)}
  {trail : Trail} {sawDrive : Bool}

-----------------------------------------------------------------------------------------
-- Escapes
-----------------------------------------------------------------------------------------

theorem decodeBytes_escape {high low byte : UInt8} (spelled : unescape? high low = some byte)
    (rest : List UInt8)
    : decodeBytes (0x25 :: high :: low :: rest) = byte :: decodeBytes rest := by
  rw [decodeBytes, spelled]

theorem decodeBytes_cons {byte : UInt8} (other : byte ≠ 0x25) (rest : List UInt8)
    : decodeBytes (byte :: rest) = byte :: decodeBytes rest := by
  rw [decodeBytes]
  intro high low more same
  exact absurd same other

theorem hexValue?_upperHexDigit {n : Nat} (small : n < 16)
    : Text.hexValue? (Char.ofNat (byteOf (Text.upperHexDigit n)).toNat) = some n := by
  have table : ∀ n < 16,
      Text.hexValue? (Char.ofNat (byteOf (Text.upperHexDigit n)).toNat) = some n := by
    decide
  exact table n small

theorem utf8EncodeChar_of_inert (inert : IsInert c) : String.utf8EncodeChar c = [byteOf c] :=
  Text.utf8EncodeChar_of_ascii inert.ascii

/-- A byte of a file name is written as three that spell it, or as itself and no percent sign. -/
theorem encoded_encodeByte (byte : UInt8)
    : (∃ high low,
        Text.encoded (encodeByte .fileName byte) = [0x25, high, low]
        ∧ unescape? high low = some byte)
      ∨ Text.encoded (encodeByte .fileName byte) = [byte] ∧ byte ≠ 0x25 := by
  cases escaped : EscapeSet.fileName byte with
  | true =>
      have bound := byte.toNat_lt
      have front : byte.toNat / 16 < 16 := by omega
      have back : byte.toNat % 16 < 16 := by omega
      left
      refine ⟨byteOf (Text.upperHexDigit (byte.toNat / 16)),
        byteOf (Text.upperHexDigit (byte.toNat % 16)), ?_, ?_⟩
      · rw [encodeByte, if_pos escaped, escapeByte, Text.encoded_eq, List.flatMap_cons,
          List.flatMap_cons, List.flatMap_cons,
          utf8EncodeChar_of_inert (isInert_upperHexDigit front),
          utf8EncodeChar_of_inert (isInert_upperHexDigit back)]
        rfl
      · rw [unescape?, hexValue?_upperHexDigit front, hexValue?_upperHexDigit back]
        simp only [Option.bind_eq_bind, Option.bind_some, Nat.div_add_mod', UInt8.ofNat_toNat]
        rfl
  | false =>
      obtain ⟨inert, self, noPercent⟩ := isInert_of_unescaped escaped
      right
      refine ⟨?_, noPercent⟩
      rw [encodeByte, escaped, Text.encoded_eq]
      simp [utf8EncodeChar_of_inert inert, self]

/-- What a file name is written as is decoded to the name. -/
theorem decodeBytes_encodeBytes (name : List UInt8)
    : decodeBytes (Text.encoded (encodeBytes .fileName name)) = name := by
  induction name with
  | nil => simp [encodeBytes, decodeBytes, Text.encoded_eq]
  | cons byte name ih =>
      have whole : Text.encoded (encodeBytes .fileName (byte :: name))
          = Text.encoded (encodeByte .fileName byte)
            ++ Text.encoded (encodeBytes .fileName name) := by
        rw [encodeBytes, List.flatMap_cons, Text.encoded_append]
        rfl
      rw [whole]
      rcases encoded_encodeByte byte with ⟨high, low, written, spelled⟩ | ⟨written, other⟩
      · rw [written, List.cons_append, List.cons_append, List.cons_append, List.nil_append,
          decodeBytes_escape spelled, ih]
      · rw [written, List.singleton_append, decodeBytes_cons other, ih]

-----------------------------------------------------------------------------------------
-- Segments
-----------------------------------------------------------------------------------------

theorem isInert_of_mem (member : c ∈ encodeBytes .fileName name) : IsInert c := by
  obtain ⟨byte, -, written⟩ := List.mem_flatMap.mp member
  exact isInert_of_mem_encodeByte written

/-- A segment that a walk keeps as it is. -/
structure IsKept (segment : List Char) : Prop where
  inert : ∀ c ∈ segment, IsInert c
  noDot : isSingleDot segment = false
  noDotDot : isDoubleDot segment = false

/-- A dot, or the escape of one. -/
inductive IsDot : List Char → Prop
  | plain : IsDot ['.']
  | escaped (e : Char) (digit : e = 'e' ∨ e = 'E') : IsDot ['%', '2', e]

theorem isDot_of_lower
    (lower
      : segment.map Text.lowerAscii = ['.'] ∨ segment.map Text.lowerAscii = ['%', '2', 'e'])
    : IsDot segment := by
  rcases lower with lower | lower
  · obtain ⟨c, rfl, dot⟩ := List.map_eq_singleton_iff.mp lower
    rw [Text.eq_of_lowerAscii_eq dot (by decide)]
    exact .plain
  · obtain ⟨percent, segment, rfl, first, lower⟩ := List.map_eq_cons_iff.mp lower
    obtain ⟨two, segment, rfl, second, lower⟩ := List.map_eq_cons_iff.mp lower
    obtain ⟨e, rfl, third⟩ := List.map_eq_singleton_iff.mp lower
    rw [Text.eq_of_lowerAscii_eq first (by decide), Text.eq_of_lowerAscii_eq second (by decide)]
    refine .escaped e ?_
    have code : 'e'.toNat = _ := third ▸ Text.toNat_lowerAscii e
    rw [← Char.ofNat_toNat e]
    split at code
    case isTrue =>
      obtain capital : e.toNat = 69 := by
        have value : 'e'.toNat = 101 := rfl
        omega
      rw [capital]
      exact Or.inr rfl
    case isFalse =>
      rw [← code]
      exact Or.inl rfl

theorem IsDot.decodeBytes (isDot : IsDot segment) (rest : List UInt8)
    : decodeBytes (Text.encoded segment ++ rest) = 0x2E :: decodeBytes rest := by
  cases isDot with
  | plain => exact decodeBytes_cons (by decide) rest
  | escaped e digit =>
      rcases digit with rfl | rfl
      · exact decodeBytes_escape (by decide) rest
      · exact decodeBytes_escape (by decide) rest

/-- A segment that counts as a dot is decoded to one. -/
theorem decodeBytes_of_isSingleDot (dots : isSingleDot segment = true)
    : decodeBytes (Text.encoded segment) = dotName := by
  have isDot : IsDot segment := by
    simp only [isSingleDot, List.contains_iff_mem, Bool.or_eq_true, List.mem_singleton] at dots
    rcases dots with plain | escaped
    · have same : segment = ['.'] := String.ofList_injective plain
      rw [same]
      exact .plain
    · exact isDot_of_lower (Or.inr (String.ofList_injective escaped))
  have decoded := isDot.decodeBytes []
  rwa [List.append_nil] at decoded

theorem decodeBytes_of_isDoubleDot (dots : isDoubleDot segment = true)
    : decodeBytes (Text.encoded segment) = dotDotName := by
  let dot := ['.']
  let escape := ['%', '2', 'e']
  have cut : ∃ front back,
      segment.map Text.lowerAscii = front ++ back
      ∧ (front = dot ∨ front = escape)
      ∧ (back = dot ∨ back = escape) := by
    simp only [isDoubleDot, List.contains_iff_mem, List.mem_cons, List.not_mem_nil, or_false]
      at dots
    rcases dots with same | same | same | same
    · exact ⟨dot, dot, String.ofList_injective same, Or.inl rfl, Or.inl rfl⟩
    · exact ⟨escape, dot, String.ofList_injective same, Or.inr rfl, Or.inl rfl⟩
    · exact ⟨dot, escape, String.ofList_injective same, Or.inl rfl, Or.inr rfl⟩
    · exact ⟨escape, escape, String.ofList_injective same, Or.inr rfl, Or.inr rfl⟩
  obtain ⟨front, back, same, isFront, isBack⟩ := cut
  obtain ⟨first, second, rfl, rfl, rfl⟩ := List.map_eq_append_iff.mp same
  have decoded := (isDot_of_lower isBack).decodeBytes []
  rw [List.append_nil] at decoded
  rw [Text.encoded_append, (isDot_of_lower isFront).decodeBytes, decoded]
  rfl

/-- Names are written as segments that a walk keeps: what counts as dots is decoded to dots. -/
theorem isKept_of_name (noDot : name ≠ dotName) (noDotDot : name ≠ dotDotName)
    : IsKept (encodeBytes .fileName name) := by
  refine ⟨fun c member => isInert_of_mem member, ?_, ?_⟩
  · rw [← Bool.not_eq_true]
    intro dots
    exact noDot ((decodeBytes_encodeBytes name).symm.trans (decodeBytes_of_isSingleDot dots))
  · rw [← Bool.not_eq_true]
    intro dots
    exact noDotDot ((decodeBytes_encodeBytes name).symm.trans (decodeBytes_of_isDoubleDot dots))

theorem not_mem_of_inert (inert : ∀ c ∈ segment, IsInert c) (other : ¬ IsInert c)
    : c ∉ segment :=
  fun member => other (inert c member)

/-- Tabs and line ends are not visible. -/
theorem isBreak_of_visible (visible : 0x20 < c.toNat) : isBreak c = false := by
  have unlike (other : Char) (small : other.toNat ≤ 0x20) : c ≠ other := by
    rintro rfl
    omega
  simp [isBreak, unlike '\t' (by decide), unlike '\n' (by decide), unlike '\r' (by decide)]

theorem unbroken_of_visible (visible : ∀ c ∈ segment, 0x20 < c.toNat)
    : unbroken segment = segment := by
  rw [unbroken, List.filter_eq_self]
  intro c member
  rw [isBreak_of_visible (visible c member)]
  rfl

theorem behindBrokenDrive?_of_visible (visible : ∀ c ∈ segment, 0x20 < c.toNat)
    : behindBrokenDrive? segment = none := by
  have keeps (text : List Char) (visible : ∀ c ∈ text, 0x20 < c.toNat)
      : text.dropWhile isBreak = text :=
    Text.dropWhile_eq_self fun c member => isBreak_of_visible (visible c member)
  unfold behindBrokenDrive?
  rw [keeps segment visible]
  split
  case h_1 => rfl
  case h_2 letter after =>
    rw [keeps after (List.forall_mem_cons.mp visible).2]
    split
    case h_1 _ rest =>
      have unbroken : rest.head?.any isBreak = false := by
        cases rest with
        | nil => rfl
        | cons c rest => exact isBreak_of_visible (visible c (by simp))
      simp [unbroken]
    case h_2 => rfl

theorem filePathText_of_visible (visible : ∀ c ∈ segment, 0x20 < c.toNat)
    (noBackslash : '\\' ∉ segment)
    : filePathText segment = segment := by
  have slashes : Family.file.slashes segment = segment := OutFiles.slashed_eq_self noBackslash
  rw [filePathText, slashes]
  refine (congrArg _ ((List.map_congr_left ?_).trans (List.map_id _))).trans
    (List.intercalate_splitOn '/')
  intro piece member
  have inside : ∀ c ∈ piece, 0x20 < c.toNat :=
    fun c within => visible c (Text.mem_of_mem_splitOn member within)
  simp only [behindBrokenDrive?_of_visible inside, unbroken_of_visible inside, id]

theorem encodeText_of_inert (inert : ∀ c ∈ segment, IsInert c)
    : encodeText .path segment = segment := by
  have single : ∀ c ∈ segment, encodeBytes .path (String.utf8EncodeChar c) = [c] := by
    intro c member
    have ascii := (inert c member).ascii
    have code : (byteOf c).toNat = c.toNat :=
      UInt8.toNat_ofNat_of_lt' (show c.toNat < 256 by omega)
    rw [utf8EncodeChar_of_inert (inert c member), encodeBytes, List.flatMap_singleton, encodeByte,
      (inert c member).unescaped, code, Char.ofNat_toNat]
    rfl
  rw [encodeText, List.flatMap_congr single, List.flatMap_singleton']

-----------------------------------------------------------------------------------------
-- Walks
-----------------------------------------------------------------------------------------

/-- Drives only count at the start of a path, where the trail has a single segment. -/
theorem Step.of_below (below : 2 ≤ trail.length) (segment : List Char)
    : Step.of .file trail segment = .plain (unbroken segment) := by
  have other : trail ≠ [[]] := fun start => absurd (start ▸ below) (by decide)
  unfold Step.of
  split
  case h_1 letter more rest letters _ => rw [if_neg (fun start => other start.2), letters]
  case h_2 => rfl

/-- Below the host a segment is written as it is encoded, drive or not. -/
theorem writeSegment_below (below : 2 ≤ trail.length) (segment : List Char)
    : writeSegment .file trail segment = encodeText .path segment := by
  refine if_neg fun start => ?_
  exact absurd (start.2.1 ▸ below) (by decide)

/-- A segment that is kept is put on the trail. -/
theorem walk_cons_kept (below : 2 ≤ trail.length) (kept : IsKept segment)
    : walk .file trail false (segment :: segments)
      = match segments with
        | [] => ⟨trail.render ++ segment, false⟩
        | next :: more => walk .file (segment :: trail) false (next :: more) := by
  have other : trail ≠ [[]] := fun start => absurd (start ▸ below) (by decide)
  have visible : ∀ c ∈ segment, 0x20 < c.toNat := fun c member => (kept.inert c member).visible
  have step : Step.of .file trail segment = .plain segment := by
    rw [Step.of_below below, unbroken_of_visible visible]
  have written : writeSegment .file trail segment = segment := by
    rw [writeSegment_below below, encodeText_of_inert kept.inert]
  rw [walk]
  cases segments <;> simp [step, kept.noDot, kept.noDotDot, written, other]

/-- Below the start of a path kept segments are written behind the trail, by induction along the
segments.
-/
theorem walk_kept (below : 2 ≤ trail.length) (segment : List Char) (segments : List (List Char))
    (kept : ∀ piece ∈ segment :: segments, IsKept piece)
    : walk .file trail false (segment :: segments)
      = ⟨trail.render ++ ['/'].intercalate (segment :: segments), false⟩ := by
  induction segments generalizing trail segment with
  | nil =>
      rw [walk_cons_kept below (kept segment List.mem_cons_self)]
      simp
  | cons next segments ih =>
      obtain ⟨here, others⟩ := List.forall_mem_cons.mp kept
      have further : 2 ≤ (segment :: trail).length := Nat.le_succ_of_le below
      rw [walk_cons_kept below here]
      simp only
      rw [ih further next others]
      simp [Trail.render, List.intercalate_cons_cons]

theorem splitOn_behindSlashes (nonempty : segments ≠ []) (free : ∀ piece ∈ segments, '/' ∉ piece)
    : (behindSlashes segments).splitOn '/' = [] :: segments := by
  rw [← OutFiles.cons_intercalate nonempty, ← List.nil_append ('/' :: _),
    List.splitOn_append_cons_self, List.splitOn_intercalate '/' free nonempty]
  rfl

/-- A path of kept segments is walked to itself.  Only its last segment may be empty, since a file
path keeps a single slash in front.
-/
theorem walkText_kept (nonempty : segments ≠ []) (kept : ∀ piece ∈ segments, IsKept piece)
    (single : segments.head? = some [] → segments = [[]])
    : (walkText .file [[]] (behindSlashes segments)).path = behindSlashes segments := by
  have free : ∀ piece ∈ segments, '/' ∉ piece :=
    fun piece member => not_mem_of_inert (kept piece member).inert fun inert => inert.noSlash rfl
  have cut := splitOn_behindSlashes nonempty free
  cases segments with
  | nil => exact absurd rfl nonempty
  | cons first segments =>
      have start : walk .file [[]] false ([] :: first :: segments)
          = walk .file [[], []] false (first :: segments) := rfl
      have walked := walk_kept (show 2 ≤ List.length [[], []] by decide) first segments kept
      simp only [walkText, cut, start, walked, if_true]
      cases first with
      | nil =>
          rw [single rfl]
          rfl
      | cons c first =>
          have noSlash : c ≠ '/' := ((kept _ List.mem_cons_self).inert c List.mem_cons_self).noSlash
          rw [← OutFiles.cons_intercalate nonempty, Text.intercalate_cons]
          simp [Trail.render, noSlash]

-----------------------------------------------------------------------------------------
-- Texts of file URLs
-----------------------------------------------------------------------------------------

section Texts

/-- The text of the file URL with a path. -/
def fileText (path : List Char) : List Char := "file://".toList ++ path

variable {path : List Char} (inside : ∀ c ∈ path, c = '/' ∨ IsInert c)

include inside

theorem visible_fileText : ∀ c ∈ fileText path, 0x20 < c.toNat := by
  have start : ∀ c ∈ "file://".toList, 0x20 < c.toNat := by simp
  intro c member
  rcases List.mem_append.mp member with front | behind
  · exact start c front
  · rcases inside c behind with rfl | inert
    · decide
    · exact inert.visible

/-- Besides its scheme a file URL has inert characters only. -/
theorem not_mem_fileText (other : c ∉ "file://".toList) (active : ¬ IsInert c)
    : c ∉ fileText path := by
  intro member
  rcases List.mem_append.mp member with front | behind
  · exact other front
  · rcases inside c behind with rfl | inert
    · exact other (by decide)
    · exact active inert

/-- There is nothing to trim from such a text, and neither a fragment nor a query to cut off. -/
theorem ofText_fileText
    : Reference.ofText (strip (fileText path)) = ⟨fileText path, none, none⟩ := by
  have noFragment : '#' ∉ fileText path :=
    not_mem_fileText inside (by decide) fun inert => absurd inert.unescaped (by decide)
  have noQuery : '?' ∉ fileText path :=
    not_mem_fileText inside (by decide) fun inert => absurd inert.unescaped (by decide)
  have stripped : strip (fileText path) = fileText path := by
    refine Text.trimChars_eq_self fun c member => ?_
    have large := visible_fileText inside c member
    simp only [decide_eq_false_iff_not]
    omega
  rw [stripped, Reference.ofText, Text.splitFirst_of_not_mem noFragment]
  simp only [Text.splitFirst_of_not_mem noQuery, Option.map_none]

/-- Only the path is left to walk. -/
theorem parseFrom?_fileText (rooted : path.head? = some '/')
    : parseFrom? none (fileText path)
      = some {
          scheme := fileScheme
          authority := some ⟨[], none, none⟩
          path := (walkText .file [[]] path).path
          query := none
          fragment := none } := by
  have noBackslash : '\\' ∉ fileText path :=
    not_mem_fileText inside (by decide) fun inert => inert.noBackslash rfl
  have behind : filePathText ('/' :: '/' :: path) = '/' :: '/' :: path := by
    refine filePathText_of_visible (fun c member => ?_) fun member => ?_
    · exact visible_fileText inside c (List.mem_append_right "file:".toList member)
    · exact noBackslash (List.mem_append_right "file:".toList member)
  have family : Family.ofScheme fileScheme = .file := rfl
  have scheme : scheme? (fileText path) = some (fileScheme, '/' :: '/' :: path) := rfl
  have cut : Text.splitFirst ':' (fileText path) = (fileScheme, some ('/' :: '/' :: path)) := rfl
  rw [parseFrom?, ofText_fileText inside]
  simp only [unbroken_of_visible (visible_fileText inside), scheme, family, cut, Option.getD_some,
    behind, Option.filter_none]
  obtain ⟨rest, rfl⟩ := List.head?_eq_some_iff.mp rooted
  rfl

end Texts

/-- The URL of a file, by the segments of its path. -/
def fileUrlOf (segments : List (List Char)) : Url :=
  { scheme := fileScheme
    authority := some ⟨[], none, none⟩
    path := behindSlashes segments
    query := none
    fragment := none }

theorem toList_fileUrlOf (segments : List (List Char))
    : (fileUrlOf segments).text.toList = fileText (behindSlashes segments) := by
  have rendered : (fileUrlOf segments).render = fileText (behindSlashes segments) ++ [] ++ [] := rfl
  rw [Url.text, String.toList_ofList, rendered, List.append_nil, List.append_nil]

/-- The text of such a URL is read as the URL. -/
theorem parse?_fileUrlOf (nonempty : segments ≠ []) (kept : ∀ piece ∈ segments, IsKept piece)
    (single : segments.head? = some [] → segments = [[]])
    : parse? (fileUrlOf segments).text = some (fileUrlOf segments) := by
  have inside : ∀ c ∈ behindSlashes segments, c = '/' ∨ IsInert c := by
    intro c member
    rcases OutFiles.mem_behindSlashes member with slash | ⟨piece, among, within⟩
    · exact Or.inl slash
    · exact Or.inr ((kept piece among).inert c within)
  have rooted : (behindSlashes segments).head? = some '/' := by
    rw [← OutFiles.cons_intercalate nonempty]
    rfl
  have read := parseFrom?_fileText inside rooted
  rw [walkText_kept nonempty kept single] at read
  rw [parse?, toList_fileUrlOf]
  exact read

-----------------------------------------------------------------------------------------
-- Paths
-----------------------------------------------------------------------------------------

theorem endsLikeDrive_of_not_mem (noColon : byteOf ':' ∉ bytes) (noBar : byteOf '|' ∉ bytes)
    : endsLikeDrive bytes = false := by
  unfold endsLikeDrive
  split
  case h_1 mark letter first rest reversed =>
    have member : mark ∈ bytes := by
      rw [← List.mem_reverse, reversed]
      exact List.mem_cons_self
    have notColon : mark ≠ byteOf ':' := fun same => noColon (same ▸ member)
    have notBar : mark ≠ byteOf '|' := fun same => noBar (same ▸ member)
    simp [notColon, notBar]
  case h_2 => rfl

/-- The URL whose segments names are written as points to the names. -/
theorem toPath?_fileUrlOf {names : List (List UInt8)} (nonempty : names ≠ [])
    (free : endsLikeDrive (names.flatMap (slash :: ·)) = false)
    : (fileUrlOf (names.map (encodeBytes .fileName))).toPath?
      = some ⟨names.flatMap (slash :: ·)⟩ := by
  have some : names.map (encodeBytes .fileName) ≠ [] := mt List.map_eq_nil_iff.mp nonempty
  have noSlash : ∀ piece ∈ names.map (encodeBytes .fileName), '/' ∉ piece := by
    intro piece member
    obtain ⟨name, -, rfl⟩ := List.mem_map.mp member
    exact (separators_not_mem name).1
  have path : (fileUrlOf (names.map (encodeBytes .fileName))).path
      = '/' :: ['/'].intercalate (names.map (encodeBytes .fileName)) :=
    (OutFiles.cons_intercalate some).symm
  have decoded : (names.map (encodeBytes .fileName)).flatMap
        (fun segment => slash :: decodeBytes (Text.toBytes (String.ofList segment)))
      = names.flatMap (slash :: ·) := by
    rw [List.flatMap_map]
    exact List.flatMap_congr fun name _ => congrArg (slash :: ·) (decodeBytes_encodeBytes name)
  rw [toPath?, path]
  simp only [List.splitOn_intercalate '/' noSlash some, decoded, free, Bool.false_eq_true, if_false]
  rfl

/-- Names behind slashes, none of them a dot, are read back from the URL they are written as. -/
theorem filePath?_fileUrlOf {names : List (List UInt8)} (nonempty : names ≠ [])
    (noDots : ∀ name ∈ names, name ≠ dotName ∧ name ≠ dotDotName)
    (single : names.head? = some [] → names = [[]])
    (free : endsLikeDrive (names.flatMap (slash :: ·)) = false)
    : ScriptUrl.filePath? (fileUrlOf (names.map (encodeBytes .fileName))).text
      = some ⟨names.flatMap (slash :: ·)⟩ := by
  have kept : ∀ piece ∈ names.map (encodeBytes .fileName), IsKept piece := by
    intro piece member
    obtain ⟨name, among, rfl⟩ := List.mem_map.mp member
    exact isKept_of_name (noDots name among).1 (noDots name among).2
  have segments : (names.map (encodeBytes .fileName)).head? = some []
      → names.map (encodeBytes .fileName) = [[]] := by
    intro empty
    rw [List.head?_map] at empty
    obtain ⟨name, first, written⟩ := Option.map_eq_some_iff.mp empty
    have decoded := decodeBytes_encodeBytes name
    rw [written] at decoded
    rw [single (first.trans (congrArg some decoded.symm))]
    rfl
  have read := parse?_fileUrlOf (mt List.map_eq_nil_iff.mp nonempty) kept segments
  have scheme : Text.sameIgnoringAsciiCase
      ((fileUrlOf (names.map (encodeBytes .fileName))).text.toList.take 5) "file:".toList := by
    rw [toList_fileUrlOf]
    rfl
  rw [ScriptUrl.filePath?, if_pos scheme, read, Option.bind_some, toPath?_fileUrlOf nonempty free]

/-- The components of an absolute path in normal form are written as names behind slashes; the root
alone is written as one empty name.
-/
theorem exists_names {p : Path} (absolute : p.isAbsolute = true) (normal : p.IsNormal)
    : ∃ names : List (List UInt8),
        names ≠ []
        ∧ p.bytes = names.flatMap (slash :: ·)
        ∧ pathOfComponents (p.components.drop 1)
          = behindSlashes (names.map (encodeBytes .fileName))
        ∧ (∀ name ∈ names, name ≠ dotName ∧ name ≠ dotDotName)
        ∧ (names.head? = some [] → names = [[]]) := by
  cases normal with
  | relative ups names plain =>
      rw [Path.isAbsolute_intercalate (Path.isStep_of_relative plain ups)] at absolute
      cases absolute
  | absolute names plain =>
      rw [Path.components_absolute plain]
      cases names with
      | nil => exact ⟨[[]], by decide, rfl, rfl, by decide, fun _ => rfl⟩
      | cons name names =>
          refine ⟨name :: names, List.cons_ne_nil _ _, ?_, ?_, ?_, ?_⟩
          · rw [Text.intercalate_cons]
            rfl
          · simp [pathOfComponents, behindSlashes, List.flatMap_map, Path.Component.bytes]
          · exact fun name member => ⟨(plain name member).noDot, (plain name member).noDotDot⟩
          · intro empty
            exact absurd (Option.some.inj empty) (plain name List.mem_cons_self).nonempty

/-- The file URL of an absolute path in normal form points back to the path. -/
theorem filePath?_ofPath? {p : Path} (absolute : p.isAbsolute = true) (normal : p.IsNormal)
    (noColon : byteOf ':' ∉ p.bytes) (noBar : byteOf '|' ∉ p.bytes)
    : ∃ url, ScriptUrl.ofPath? p = some url ∧ ScriptUrl.filePath? url = some p := by
  obtain ⟨names, nonempty, bytes, written, noDots, single⟩ := exists_names absolute normal
  have url : ofPath? p = some (fileUrlOf (names.map (encodeBytes .fileName))) := by
    rw [ofPath?, if_pos absolute, written]
    rfl
  have free : endsLikeDrive (names.flatMap (slash :: ·)) = false :=
    bytes ▸ endsLikeDrive_of_not_mem noColon noBar
  refine ⟨_, by rw [ScriptUrl.ofPath?, url, Option.map_some], ?_⟩
  rw [filePath?_fileUrlOf nonempty noDots single free, ← bytes]

end EarlyBreak.Url
