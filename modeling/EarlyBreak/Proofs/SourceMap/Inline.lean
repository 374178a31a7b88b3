import EarlyBreak.Proofs.SourceMap.Quantity
import EarlyBreak.Proofs.Url.FilePaths
import EarlyBreak.SourceMap.Loader

/-! Texts in data URLs.  A text that was written as Base64, or with any of its bytes as escapes, is
read back as it was, whatever media type stands in front of it.
-/

namespace EarlyBreak

namespace Base64

theorem digit_ne_padding {n : Nat} (small : n < 64) : digit n ≠ '=' := by
  intro same
  have known := value?_digit small
  have noDigit : value? '=' = none := by decide
  rw [same, noDigit] at known
  cases known

/-- Reading gives back the bytes that were written, group by group. -/
theorem decode?_encode (bytes : List UInt8) : decode? (encode bytes) = some bytes := by
  fun_induction encode bytes with
  | case1 => rfl
  | case2 a =>
      have boundA := a.toNat_lt
      have noRest : a.toNat % 4 * 16 % 16 = 0 := by omega
      have first : a.toNat / 4 * 4 + a.toNat % 4 * 16 / 16 = a.toNat := by omega
      rw [decode?, value?_digit (by omega), value?_digit (by omega)]
      simp only [Option.bind_eq_bind, Option.bind_some, noRest, if_true, first, UInt8.ofNat_toNat]
      rfl
  | case3 a b =>
      have boundA := a.toNat_lt
      have boundB := b.toNat_lt
      have noRest : b.toNat % 16 * 4 % 4 = 0 := by omega
      have first : a.toNat / 4 * 4 + (a.toNat % 4 * 16 + b.toNat / 16) / 16 = a.toNat := by omega
      have second : (a.toNat % 4 * 16 + b.toNat / 16) % 16 * 16 + b.toNat % 16 * 4 / 4
          = b.toNat := by omega
      rw [decode?, value?_digit (by omega), value?_digit (by omega), value?_digit (by omega)]
      · simp only [Option.bind_eq_bind, Option.bind_some, noRest, if_true, first, second,
          UInt8.ofNat_toNat]
        rfl
      · exact digit_ne_padding (by omega)
  | case4 a b c rest ih =>
      have boundA := a.toNat_lt
      have boundB := b.toNat_lt
      have boundC := c.toNat_lt
      have first : a.toNat / 4 * 4 + (a.toNat % 4 * 16 + b.toNat / 16) / 16 = a.toNat := by omega
      have second : (a.toNat % 4 * 16 + b.toNat / 16) % 16 * 16
          + (b.toNat % 16 * 4 + c.toNat / 64) / 4 = b.toNat := by omega
      have third : (b.toNat % 16 * 4 + c.toNat / 64) % 4 * 64 + c.toNat % 64 = c.toNat := by omega
      have noPadding : digit (c.toNat % 64) ≠ '=' := digit_ne_padding (by omega)
      -- The last digit tells a whole group from a padded one.
      rw [decode?, value?_digit (by omega), value?_digit (by omega), value?_digit (by omega),
        value?_digit (by omega), ih]
      · simp only [Option.bind_eq_bind, Option.bind_some, first, second, third, UInt8.ofNat_toNat]
        rfl
      · exact fun _ padding => absurd padding noPadding
      · exact fun padding => absurd padding noPadding

theorem mem_encode {bytes : List UInt8} {c : Char} (member : c ∈ encode bytes)
    : c = '=' ∨ ∃ n < 64, c = digit n := by
  fun_induction encode bytes with
  | case1 => cases member
  | case2 a =>
      have bound := a.toNat_lt
      simp only [List.mem_cons, List.not_mem_nil, or_false] at member
      rcases member with same | same | same | same
      · exact Or.inr ⟨_, by omega, same⟩
      · exact Or.inr ⟨_, by omega, same⟩
      · exact Or.inl same
      · exact Or.inl same
  | case3 a b =>
      have boundA := a.toNat_lt
      have boundB := b.toNat_lt
      simp only [List.mem_cons, List.not_mem_nil, or_false] at member
      rcases member with same | same | same | same
      · exact Or.inr ⟨_, by omega, same⟩
      · exact Or.inr ⟨_, by omega, same⟩
      · exact Or.inr ⟨_, by omega, same⟩
      · exact Or.inl same
  | case4 a b c rest ih =>
      have boundA := a.toNat_lt
      have boundB := b.toNat_lt
      have boundC := c.toNat_lt
      simp only [List.mem_cons] at member
      rcases member with same | same | same | same | later
      · exact Or.inr ⟨_, by omega, same⟩
      · exact Or.inr ⟨_, by omega, same⟩
      · exact Or.inr ⟨_, by omega, same⟩
      · exact Or.inr ⟨_, by omega, same⟩
      · exact ih later

/-- No white space is written, so there is none to trim. -/
theorem trimChars_encode (bytes : List UInt8)
    : Text.trimChars Text.isBlank (encode bytes) = encode bytes := by
  refine Text.trimChars_eq_self fun c member => ?_
  have table : ∀ n < 64, Text.isBlank (digit n) = false := by decide +kernel
  rcases mem_encode member with rfl | ⟨n, small, rfl⟩
  · decide
  · exact table n small

end Base64

namespace Url

/-- A hexadecimal digit of either case. -/
def IsHexDigit (n : Nat) (c : Char) : Prop := c = Text.lowerHexDigit n ∨ c = Text.upperHexDigit n

/-- A text spells bytes: any of them by an escape, and any ASCII ones but percent signs as they are.
-/
inductive Spells : (text : List Char) → (bytes : List UInt8) → Prop
  | nil : Spells [] []
  | plain {text bytes} (c : Char) (ascii : c.toNat < 128) (other : c ≠ '%')
    (rest : Spells text bytes)
    : Spells (c :: text) (byteOf c :: bytes)
  | escape {text bytes high low} (byte : UInt8) (front : IsHexDigit (byte.toNat / 16) high)
    (back : IsHexDigit (byte.toNat % 16) low) (rest : Spells text bytes)
    : Spells ('%' :: high :: low :: text) (byte :: bytes)

/-- A hex digit of either case has its value. -/
theorem hexValue?_of_isHexDigit {n : Nat} {c : Char} (small : n < 16) (digit : IsHexDigit n c)
    : c.toNat < 128 ∧ Text.hexValue? (Char.ofNat (byteOf c).toNat) = some n := by
  have lower : ∀ n < 16, (Text.lowerHexDigit n).toNat < 128
      ∧ Text.hexValue? (Char.ofNat (byteOf (Text.lowerHexDigit n)).toNat) = some n := by decide
  have upper : ∀ n < 16, (Text.upperHexDigit n).toNat < 128
      ∧ Text.hexValue? (Char.ofNat (byteOf (Text.upperHexDigit n)).toNat) = some n := by decide
  rcases digit with rfl | rfl
  · exact lower n small
  · exact upper n small

theorem encoded_cons_of_ascii {c : Char} (ascii : c.toNat < 128) (text : List Char)
    : Text.encoded (c :: text) = byteOf c :: Text.encoded text := by
  rw [Text.encoded_eq, Text.encoded_eq, List.flatMap_cons, Text.utf8EncodeChar_of_ascii ascii]
  rfl

/-- Decoding gives back the bytes that a text spells. -/
theorem decodeBytes_of_spells {text : List Char} {bytes : List UInt8} (spells : Spells text bytes)
    : decodeBytes (Text.encoded text) = bytes := by
  induction spells with
  | nil => rfl
  | plain c ascii other rest ih =>
      have noPercent : byteOf c ≠ 0x25 := by
        intro same
        have code : c.toNat % 256 = 0x25 := by
          rw [← UInt8.toNat_ofNat', ← byteOf, same]
          rfl
        have percent : c = '%' := by
          rw [← Char.ofNat_toNat c, ← Nat.mod_eq_of_lt (show c.toNat < 256 by omega), code]
        exact other percent
      rw [encoded_cons_of_ascii ascii, decodeBytes_cons noPercent, ih]
  | @escape text bytes high low byte front back rest ih =>
      have bound := byte.toNat_lt
      obtain ⟨asciiHigh, valueHigh⟩ := hexValue?_of_isHexDigit (by omega) front
      obtain ⟨asciiLow, valueLow⟩ := hexValue?_of_isHexDigit (by omega) back
      have spelled : unescape? (byteOf high) (byteOf low) = some byte := by
        rw [unescape?, valueHigh, valueLow]
        simp only [Option.bind_eq_bind, Option.bind_some, Nat.div_add_mod', UInt8.ofNat_toNat]
        rfl
      have mark : byteOf '%' = 0x25 := by decide
      rw [encoded_cons_of_ascii (by decide), encoded_cons_of_ascii asciiHigh,
        encoded_cons_of_ascii asciiLow, mark, decodeBytes_escape spelled, ih]

end Url

namespace SourceMap

/-- A part of a media type between semicolons is a name, in any case of its letters. -/
def HasParameter (name : String) (media : List Char) : Prop :=
  ∃ part ∈ media.splitOn ';', Text.sameIgnoringAsciiCase part name.toList = true

/-- A data URL with a media type holds a text: as Base64, or with escapes if the media type does not
say otherwise.
-/
inductive HoldsText (media : List Char) (text : String) : (url : String) → Prop
  | base64
    : HoldsText media text (String.ofList ("data:".toList
        ++ (media ++ ";base64".toList ++ ',' :: Base64.encode (Text.toBytes text))))
  | escapes {written : List Char} (plain : ¬ HasParameter "base64" media)
    (spells : Url.Spells written (Text.toBytes text))
    : HoldsText media text (String.ofList ("data:".toList ++ (media ++ ',' :: written)))

/-- A header says base64 exactly if it has that parameter. -/
theorem saysBase64_iff {header : List Char}
    : saysBase64 header = true ↔ HasParameter "base64" header :=
  List.any_eq_true

theorem saysBase64_append (media : List Char)
    : saysBase64 (media ++ ";base64".toList) = true := by
  have parts : (media ++ ";base64".toList).splitOn ';' = media.splitOn ';' ++ ["base64".toList] :=
    List.splitOn_append_cons_self media "base64".toList
  refine saysBase64_iff.mpr ⟨"base64".toList, ?_, by decide⟩
  rw [parts]
  exact List.mem_append_right _ List.mem_cons_self

/-- The header of a data URL ends at its first comma, and decides how the rest is read. -/
theorem dataText?_ofList {header : List Char} (noComma : ',' ∉ header) (payload : List Char)
    : dataText? (String.ofList ("data:".toList ++ (header ++ ',' :: payload)))
      = (if saysBase64 header then Base64.decode? (Text.trimChars Text.isBlank payload)
        else some (Url.decodeBytes (Text.encoded payload))).bind Text.ofBytes? := by
  have rest : Text.dropStart? dataMark ("data:".toList ++ (header ++ ',' :: payload))
      = some (header ++ ',' :: payload) :=
    Text.dropStart?_eq_some_iff.mpr rfl
  rw [dataText?, String.toList_ofList, rest]
  simp only [Option.bind_eq_bind, Option.bind_some, Text.splitFirst_append noComma]
  split <;> rfl

/-- The text that a data URL holds is read back, and the map that it describes is loaded. -/
theorem holdsText_reads {media : List Char} {text url : String} (noComma : ',' ∉ media)
    (holds : HoldsText media text url)
    : dataText? url = some text
      ∧ ∀ (tree : FileTree) (file : CompiledFile),
          file.mapUrl = url → load tree file = parse text (Url.ofPath? file.path) := by
  have reads : dataText? url = some text := by
    cases holds with
    | base64 =>
        have header : ',' ∉ media ++ ";base64".toList := by
          rw [List.mem_append]
          exact not_or.mpr ⟨noComma, by decide⟩
        rw [dataText?_ofList header, if_pos (saysBase64_append media), Base64.trimChars_encode,
          Base64.decode?_encode, Option.bind_some, Text.ofBytes?_toBytes]
    | escapes plain spells =>
        have header : ¬ saysBase64 media = true := mt saysBase64_iff.mp plain
        rw [dataText?_ofList noComma, if_neg header, Url.decodeBytes_of_spells spells,
          Option.bind_some, Text.ofBytes?_toBytes]
  refine ⟨reads, fun tree file named => ?_⟩
  have isData : isDataUrl url = true := by
    cases holds <;> simp [isDataUrl, dataMark]
  rw [load, named, if_pos isData, reads]

/-- Escapes with digits of both cases, the last one at the end of the URL. -/
theorem holdsText_reads_mixed
    : let media := "application/json;charset=utf-8".toList
      let url := "data:application/json;charset=utf-8,5%c3%A9%25"
      ',' ∉ media ∧ HoldsText media "5é%" url ∧ dataText? url = some "5é%" := by
  intro media url
  have noComma : ',' ∉ media := by decide
  have plain : ¬ HasParameter "base64" media := by
    rw [← saysBase64_iff]
    decide +kernel
  have spells : Url.Spells "5%c3%A9%25".toList [Url.byteOf '5', 0xC3, 0xA9, 0x25] :=
    .plain '5' (by decide) (by decide)
      (.escape 0xC3 (Or.inl (by decide)) (Or.inl (by decide))
        (.escape 0xA9 (Or.inr (by decide)) (Or.inr (by decide))
          (.escape 0x25 (Or.inr (by decide)) (Or.inr (by decide)) .nil)))
  have holds : HoldsText media "5é%" url := .escapes plain spells
  exact ⟨noComma, holds, (holdsText_reads noComma holds).1⟩

end SourceMap

end EarlyBreak
