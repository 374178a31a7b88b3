import EarlyBreak.Proofs.Path.Naming
import EarlyBreak.Proofs.Text.Letters
import EarlyBreak.ScriptUrl

/-! How the file URL of a path is written: its pieces between slashes are the names of the path,
with some bytes escaped.  A name without such bytes is written as it is.  One with such bytes is not
what its piece starts with, unless a digit of an escape comes next there.
-/

namespace EarlyBreak.Url

open OutFiles (behindSlashes)

variable {byte : UInt8} {c : Char} {n : Nat}

/-- Bytes that a file name in a URL is written with as they are. -/
def Unescaped (bytes : List UInt8) : Prop := ∀ byte ∈ bytes, EscapeSet.fileName byte = false

theorem EscapeSet.with_eq_false_iff {set : EscapeSet} {more : List Char}
    : set.with more byte = false ↔ set byte = false ∧ ∀ c ∈ more, byteOf c ≠ byte := by
  simp [EscapeSet.with]

/-- A character that stands for itself wherever it is in the path of a file URL. -/
structure IsInert (c : Char) : Prop where
  visible : 0x20 < c.toNat
  ascii : c.toNat < 128
  unescaped : EscapeSet.path (byteOf c) = false
  noSlash : c ≠ '/'
  noBackslash : c ≠ '\\'

theorem isInert_upperHexDigit (small : n < 16) : IsInert (Text.upperHexDigit n) := by
  have table : ∀ n < 16,
      let digit := Text.upperHexDigit n
      0x20 < digit.toNat ∧ digit.toNat < 128 ∧ EscapeSet.path (byteOf digit) = false
        ∧ digit ≠ '/' ∧ digit ≠ '\\' := by
    decide
  obtain ⟨visible, ascii, unescaped, noSlash, noBackslash⟩ := table n small
  exact ⟨visible, ascii, unescaped, noSlash, noBackslash⟩

/-- A byte that a file name is written with as it is is that of an inert character, and no percent
sign.
-/
theorem isInert_of_unescaped (plain : EscapeSet.fileName byte = false)
    : IsInert (Char.ofNat byte.toNat) ∧ byteOf (Char.ofNat byte.toNat) = byte ∧ byte ≠ 0x25 := by
  obtain ⟨path, marks⟩ := EscapeSet.with_eq_false_iff.mp plain
  obtain ⟨fragment, -⟩ := EscapeSet.with_eq_false_iff.mp path
  obtain ⟨controls, quotes⟩ := EscapeSet.with_eq_false_iff.mp fragment
  simp only [EscapeSet.controls, Bool.or_eq_false_iff, decide_eq_false_iff_not,
    UInt8.lt_iff_toNat_lt, UInt8.le_iff_toNat_le] at controls
  have low : (0x20 : UInt8).toNat = 0x20 := rfl
  have high : (0x7F : UInt8).toNat = 0x7F := rfl
  have noSpace : (0x20 : UInt8).toNat ≠ byte.toNat := mt UInt8.toNat_inj.mp (quotes ' ' (by simp))
  have code : (Char.ofNat byte.toNat).toNat = byte.toNat :=
    Text.toNat_ofNat_of_valid (Or.inl (by omega))
  have self : byteOf (Char.ofNat byte.toNat) = byte := by rw [byteOf, code, UInt8.ofNat_toNat]
  have unlike {c : Char} (other : byteOf c ≠ byte) : Char.ofNat byte.toNat ≠ c := by
    rintro rfl
    exact other self
  have inert : IsInert (Char.ofNat byte.toNat) :=
    ⟨by omega, by omega, self.symm ▸ path, unlike (marks '/' (by simp)),
      unlike (marks '\\' (by simp))⟩
  exact ⟨inert, self, (marks '%' (by simp)).symm⟩

/-- A byte of a file name is written with inert characters. -/
theorem isInert_of_mem_encodeByte (member : c ∈ encodeByte .fileName byte) : IsInert c := by
  rw [encodeByte] at member
  split at member
  case isTrue =>
    have bound := byte.toNat_lt
    simp only [escapeByte, List.mem_cons, List.not_mem_nil, or_false] at member
    rcases member with rfl | rfl | rfl
    · exact ⟨by decide, by decide, by decide, by decide, by decide⟩
    · exact isInert_upperHexDigit (by omega)
    · exact isInert_upperHexDigit (by omega)
  case isFalse plain =>
    rw [Bool.not_eq_true] at plain
    rw [List.mem_singleton.mp member]
    exact (isInert_of_unescaped plain).1

/-- A file name is written without slashes, backslashes and line feeds, byte by byte. -/
theorem separators_not_mem_byte (byte : UInt8)
    : '/' ∉ encodeByte .fileName byte
      ∧ '\\' ∉ encodeByte .fileName byte
      ∧ '\n' ∉ encodeByte .fileName byte := by
  refine ⟨fun slash => ?_, fun backslash => ?_, fun line => ?_⟩
  · exact (isInert_of_mem_encodeByte slash).noSlash rfl
  · exact (isInert_of_mem_encodeByte backslash).noBackslash rfl
  · exact absurd (isInert_of_mem_encodeByte line).visible (by decide)

/-- No separator is left unescaped in a file name. -/
theorem separators_not_mem (bytes : List UInt8)
    : '/' ∉ encodeBytes .fileName bytes
      ∧ '\\' ∉ encodeBytes .fileName bytes
      ∧ '\n' ∉ encodeBytes .fileName bytes := by
  simp only [encodeBytes, List.mem_flatMap, not_exists, not_and]
  exact ⟨fun byte _ => (separators_not_mem_byte byte).1,
    fun byte _ => (separators_not_mem_byte byte).2.1,
    fun byte _ => (separators_not_mem_byte byte).2.2⟩

/-- Beyond ASCII every byte of a character is escaped. -/
theorem escaped_of_not_ascii (large : ¬ c.toNat < 128) (member : byte ∈ String.utf8EncodeChar c)
    : EscapeSet.fileName byte = true := by
  by_contra plain
  rw [Bool.not_eq_true] at plain
  -- Only the ASCII character itself is written with such a byte.
  obtain ⟨inert, self, -⟩ := isInert_of_unescaped plain
  have same : c = Char.ofNat byte.toNat :=
    Text.eq_of_mem_utf8EncodeChar inert.ascii (by rwa [← byteOf, self])
  exact large (same ▸ inert.ascii)

theorem encodeBytes_of_escaped {first : UInt8} (escaped : EscapeSet.fileName first = true)
    (rest : List UInt8)
    : ∃ more, encodeBytes .fileName (first :: rest) = '%' :: more := by
  rw [encodeBytes, List.flatMap_cons, encodeByte, if_pos escaped, escapeByte]
  exact ⟨_, rfl⟩

/-- A character is written as it is, or else with a percent sign in front. -/
theorem encodeBytes_char (c : Char)
    : (Unescaped (String.utf8EncodeChar c)
        ∧ encodeBytes .fileName (String.utf8EncodeChar c) = [c])
      ∨ ¬ Unescaped (String.utf8EncodeChar c)
        ∧ ∃ more, encodeBytes .fileName (String.utf8EncodeChar c) = '%' :: more := by
  cases bytes : String.utf8EncodeChar c with
  | nil => exact absurd bytes String.utf8EncodeChar_ne_nil
  | cons first rest =>
      by_cases escaped : EscapeSet.fileName first = true
      · refine Or.inr ⟨fun plain => ?_, encodeBytes_of_escaped escaped rest⟩
        rw [plain first List.mem_cons_self] at escaped
        cases escaped
      · -- So the character is an ASCII one, of one byte.
        have small : c.toNat < 128 := by
          by_contra large
          exact escaped (escaped_of_not_ascii large (bytes ▸ List.mem_cons_self))
        have code : (UInt8.ofNat c.toNat).toNat = c.toNat :=
          UInt8.toNat_ofNat_of_lt' (show c.toNat < 256 by omega)
        rw [Text.utf8EncodeChar_of_ascii small] at bytes
        obtain ⟨rfl, rfl⟩ := List.cons.inj bytes
        rw [Bool.not_eq_true] at escaped
        left
        simp [Unescaped, encodeBytes, encodeByte, escaped, code]

theorem encodeBytes_append (set : EscapeSet) (bytes more : List UInt8)
    : encodeBytes set (bytes ++ more) = encodeBytes set bytes ++ encodeBytes set more :=
  List.flatMap_append

/-- The text of a name is written character by character. -/
theorem encodeBytes_cons (set : EscapeSet) (c : Char) (text : List Char)
    : encodeBytes set (Text.encoded (c :: text))
      = encodeBytes set (String.utf8EncodeChar c) ++ encodeBytes set (Text.encoded text) := by
  rw [Text.encoded_eq, List.flatMap_cons, encodeBytes_append, ← Text.encoded_eq]

theorem unescaped_cons {c : Char} {text : List Char}
    : Unescaped (Text.encoded (c :: text))
      ↔ Unescaped (String.utf8EncodeChar c) ∧ Unescaped (Text.encoded text) := by
  rw [Text.encoded_eq, List.flatMap_cons, Unescaped, List.forall_mem_append, ← Text.encoded_eq]
  rfl

/-- A name that needs no escapes is written as it is. -/
theorem encodeBytes_of_unescaped {text : List Char} (plain : Unescaped (Text.encoded text))
    : encodeBytes .fileName (Text.encoded text) = text := by
  induction text with
  | nil => simp [encodeBytes, Text.encoded_eq]
  | cons c text ih =>
      obtain ⟨first, others⟩ := unescaped_cons.mp plain
      rcases encodeBytes_char c with ⟨-, written⟩ | ⟨escaped, -⟩
      · rw [encodeBytes_cons, written, ih others, List.singleton_append]
      · exact absurd first escaped

/-- A text that starts with one of the digits of the escape of a percent sign. -/
def StartsWithDigit (text : List Char) : Prop :=
  ∃ c rest, text = c :: rest ∧ (c = '2' ∨ c = '5')

/-- A name behind the two digits starts with itself only by being those digits over and over, and
then one of them follows it.
-/
theorem startsWithDigit_of_shifted (text rest behind : List Char)
    (same
      : '2' :: '5' :: (encodeBytes .fileName (Text.encoded text) ++ rest) = text ++ behind)
    : StartsWithDigit behind :=
  match text with
  | [] => ⟨'2', _, same.symm, Or.inl rfl⟩
  | [_] => ⟨'5', _, (List.cons.inj same).2.symm, Or.inr rfl⟩
  | first :: second :: text => by
      obtain ⟨rfl, same⟩ := List.cons.inj same
      obtain ⟨rfl, same⟩ := List.cons.inj same
      have digits : encodeBytes .fileName (String.utf8EncodeChar '2') = ['2']
          ∧ encodeBytes .fileName (String.utf8EncodeChar '5') = ['5'] := by decide
      rw [encodeBytes_cons, encodeBytes_cons, digits.1, digits.2] at same
      exact startsWithDigit_of_shifted text rest behind same

/-- A name with escapes is not what it is written as: it begins the written text at most if a digit
follows it there.
-/
theorem startsWithDigit_of_escaped {text rest behind : List Char}
    (escaped : ¬ Unescaped (Text.encoded text))
    (same : encodeBytes .fileName (Text.encoded text) ++ rest = text ++ behind)
    : StartsWithDigit behind := by
  induction text with
  | nil => simp [Unescaped, Text.encoded_eq] at escaped
  | cons c text ih =>
      rw [encodeBytes_cons, List.append_assoc] at same
      rcases encodeBytes_char c with ⟨plain, written⟩ | ⟨-, more, written⟩
      · rw [unescaped_cons, not_and] at escaped
        rw [written] at same
        exact ih (escaped plain) (List.cons.inj same).2
      · -- The escape starts with a percent sign, so that is the character itself.
        rw [written] at same
        obtain ⟨rfl, -⟩ := List.cons.inj same
        have percent : encodeBytes .fileName (String.utf8EncodeChar '%') = ['%', '2', '5'] := by
          decide
        rw [← written, percent] at same
        exact startsWithDigit_of_shifted text rest behind (List.cons.inj same).2

/-- A text that starts with a slash is no URL. -/
theorem filePath?_of_slash {source : String} {rest : List Char}
    (starts : source.toList = '/' :: rest)
    : ScriptUrl.filePath? source = none := by
  rw [ScriptUrl.filePath?, starts, if_neg]
  simp [Text.sameIgnoringAsciiCase, Text.lowerAscii]

/-- The URL of a path consists of pieces between slashes, the last of them the name of the path. -/
theorem exists_pieces {p : Path} {url : String} {name : List UInt8}
    (given : ScriptUrl.ofPath? p = some url) (named : p.fileName? = some name)
    : ∃ folders,
        '/' :: url.toList = behindSlashes (folders ++ [encodeBytes .fileName name])
        ∧ ∀ piece ∈ folders ++ [encodeBytes .fileName name],
            '/' ∉ piece ∧ '\\' ∉ piece ∧ '\n' ∉ piece := by
  obtain ⟨found, whole, rfl⟩ := Option.map_eq_some_iff.mp given
  rw [ofPath?] at whole
  split at whole
  case isFalse => cases whole
  case isTrue absolute =>
    obtain rfl := Option.some.inj whole
    -- Behind the root are some components, and the name is the last of them.
    obtain ⟨above, components⟩ : ∃ above, p.components.drop 1 = above ++ [.name name] := by
      obtain ⟨front, components⟩ := Path.fileName?_eq_some_iff.mp named
      rw [Path.components_eq, Path.start, if_pos absolute, List.singleton_append] at components ⊢
      cases front with
      | nil => cases components
      | cons first above => exact ⟨above, (List.cons.inj components).2⟩
    refine ⟨"file:".toList :: [] :: [] ::
      above.map fun component => encodeBytes .fileName component.bytes, ?_, ?_⟩
    · rw [components]
      simp [Url.text, Url.render, Authority.render, fileScheme, pathOfComponents, behindSlashes,
        List.flatMap_map, Path.Component.bytes]
    · intro piece member
      simp only [List.cons_append, List.mem_cons, List.mem_append, List.mem_map,
        List.not_mem_nil, or_false] at member
      rcases member with rfl | rfl | rfl | ⟨component, -, rfl⟩ | rfl
      · decide
      · decide
      · decide
      · exact separators_not_mem _
      · exact separators_not_mem _

/-- The URL of a path has the name of the path as its last piece between slashes, and it has no
backslash and no line feed.
-/
theorem splitOn_ofPath? {p : Path} {url : String} {name : List UInt8}
    (given : ScriptUrl.ofPath? p = some url) (named : p.fileName? = some name)
    : ∃ folders,
        url.toList.splitOn '/' = folders ++ [encodeBytes .fileName name]
        ∧ '\\' ∉ url.toList
        ∧ '\n' ∉ url.toList := by
  obtain ⟨folders, text, plain⟩ := exists_pieces given named
  have apart : folders ++ [encodeBytes .fileName name] ≠ [] := by simp
  have absent {c : Char} (other : c ≠ '/')
      (none : ∀ piece ∈ folders ++ [encodeBytes .fileName name], c ∉ piece)
      : c ∉ url.toList := by
    intro member
    have within := List.mem_cons_of_mem '/' member
    rw [text] at within
    rcases OutFiles.mem_behindSlashes within with slash | ⟨piece, among, inside⟩
    · exact other slash
    · exact none piece among inside
  refine ⟨folders, ?_, absent (by decide) fun piece among => (plain piece among).2.1,
    absent (by decide) fun piece among => (plain piece among).2.2⟩
  rw [← OutFiles.cons_intercalate apart] at text
  rw [(List.cons.inj text).2]
  exact List.splitOn_intercalate '/' (fun piece among => (plain piece among).1) apart

end EarlyBreak.Url
