import EarlyBreak.Cache.Entry
import Mathlib

/-! Decoding what was encoded: every decoder reads the bytes of its encoder, wherever they stand,
and stops behind them.
-/

namespace EarlyBreak.Cache

/-- A decoder takes these bytes for a value, wherever they stand, and stops behind them. -/
def Decoder.Reads {α : Type} (decoder : Decoder α) (bytes : ByteArray) (value : α) : Prop :=
  ∀ before after : ByteArray,
    (decoder.run (before ++ bytes ++ after)).run before.size
      = some (value, before.size + bytes.size)

namespace Decoder.Reads

variable {α β : Type} {decoder : Decoder α} {next : α → Decoder β} {bytes others : ByteArray}
  {value : α} {result : β}

theorem pure (value : α)
    : Reads (Pure.pure value) .empty value :=
  fun _ _ => rfl

theorem bind (first : decoder.Reads bytes value) (second : (next value).Reads others result)
    : (decoder >>= next).Reads (bytes ++ others) result := by
  intro before after
  have read := first before (others ++ after)
  have goesOn := second (before ++ bytes) after
  rw [← ByteArray.append_assoc] at read
  rw [ByteArray.size_append] at goesOn
  rw [← ByteArray.append_assoc, ByteArray.size_append, ← Nat.add_assoc, ← goesOn]
  simp only [ReaderT.run_bind, StateT.run_bind, read]
  rfl

/-- The last decoder of several leaves nothing over. -/
theorem last (read : decoder.Reads bytes value) (ends : (next value).Reads .empty result)
    : (decoder >>= next).Reads bytes result := by
  simpa only [ByteArray.append_empty] using read.bind ends

/-- What is read from bytes is read in front of any others. -/
theorem runFront (read : decoder.Reads bytes value) (after : ByteArray)
    : decoder.runFront (bytes ++ after) = some value := by
  have front := read .empty after
  rw [ByteArray.empty_append] at front
  rw [Decoder.runFront, show (0 : Nat) = ByteArray.empty.size from rfl, front]
  rfl

/-- And it is read when nothing else is there. -/
theorem runWhole (read : decoder.Reads bytes value)
    : decoder.runWhole bytes = some value := by
  have whole := read .empty .empty
  rw [ByteArray.empty_append, ByteArray.append_empty] at whole
  rw [Decoder.runWhole, show (0 : Nat) = ByteArray.empty.size from rfl, whole]
  simp

end Decoder.Reads

/-- Some bytes are taken exactly if that many are left. -/
theorem take_run (count : Nat) (bytes : ByteArray) (position : Nat)
    : ((Decoder.take count).run bytes).run position
      = if position + count ≤ bytes.size then
          some (bytes.extract position (position + count), position + count)
        else none := by
  show (ite (position + count ≤ bytes.size) _ _ : Decoder ByteArray) bytes position = _
  split <;> rfl

theorem reads_take (bytes : ByteArray)
    : (Decoder.take bytes.size).Reads bytes bytes := by
  intro before after
  have fits : before.size + bytes.size ≤ (before ++ bytes ++ after).size := by
    simp only [ByteArray.size_append]
    omega
  have middle : (before ++ bytes ++ after).extract before.size (before.size + bytes.size)
      = bytes := by
    rw [ByteArray.extract_append, ByteArray.extract_append_eq_right rfl rfl,
      ByteArray.size_append, Nat.sub_self, Nat.sub_eq_zero_of_le (Nat.le_add_right _ _),
      ByteArray.extract_same, ByteArray.append_empty]
  rw [take_run, if_pos fits, middle]

theorem length_encodeNat (width n : Nat)
    : (encodeNat width n).length = width := by
  induction width generalizing n with
  | zero => rfl
  | succ width ih => rw [encodeNat, List.length_cons, ih]

/-- A number that fits its width is read back from its bytes, by induction on the width. -/
theorem decodeNat_encodeNat {width n : Nat} (fits : n < 256 ^ width)
    : decodeNat (encodeNat width n) = n := by
  induction width generalizing n with
  | zero => simp at fits; simp [encodeNat, decodeNat, fits]
  | succ width ih =>
      have less : n / 256 < 256 ^ width := Nat.div_lt_of_lt_mul (by rwa [Nat.pow_succ'] at fits)
      have byte : (UInt8.ofNat (n % 256)).toNat = n % 256 :=
        UInt8.toNat_ofNat_of_lt' (Nat.mod_lt n (by decide))
      rw [encodeNat, decodeNat, ih less, byte]
      exact Nat.mod_add_div n 256

theorem size_bytesOf (bytes : List UInt8)
    : (bytesOf bytes).size = bytes.length := rfl

/-- A number is read back from as many bytes as its width, if it fits them. -/
theorem reads_number {width n : Nat} (fits : n < 256 ^ width)
    : (Decoder.number width).Reads (bytesOf (encodeNat width n)) n := by
  have read := reads_take (bytesOf (encodeNat width n))
  rw [size_bytesOf, length_encodeNat] at read
  have same : decodeNat (bytesOf (encodeNat width n)).data.toList = n := decodeNat_encodeNat fits
  exact read.last (by rw [same]; exact .pure n)

theorem reads_word32 {n : Nat} (fits : n < 2 ^ 32)
    : Decoder.word32.Reads (encodeWord32 n) n :=
  reads_number (by simpa using fits)

theorem reads_word64 {n : Nat} (fits : n < 2 ^ 64)
    : Decoder.word64.Reads (encodeWord64 n) n :=
  reads_number (by simpa using fits)

theorem size_encodeWord64 (n : Nat)
    : (encodeWord64 n).size = 8 :=
  (size_bytesOf _).trans (length_encodeNat 8 n)

theorem size_encodeText (s : String)
    : (encodeText s).size = 8 + s.utf8ByteSize := by
  rw [encodeText, ByteArray.size_append, size_encodeWord64]
  rfl

theorem fromUTF8?_toUTF8 (s : String)
    : String.fromUTF8? s.toUTF8 = some s := by
  simp [String.fromUTF8?, String.toUTF8, String.fromUTF8, s.isValidUTF8]

/-- A text is read back from its length and its bytes. -/
theorem reads_text {s : String} (fits : s.utf8ByteSize < 2 ^ 64)
    : Decoder.text.Reads (encodeText s) s := by
  refine (reads_word64 fits).bind ?_
  refine (reads_take s.toUTF8).last ?_
  rw [fromUTF8?_toUTF8]
  exact .pure s

section Lists

variable {α : Type} {encode : α → ByteArray} {items : List α} {item : Decoder α}

/-- The bytes of items, one after the other. -/
def joined (encode : α → ByteArray) : List α → ByteArray
  | [] => .empty
  | first :: rest => encode first ++ joined encode rest

theorem encodeList_eq (encode : α → ByteArray) (items : List α)
    : encodeList encode items = encodeWord64 items.length ++ joined encode items := by
  have appended (front : ByteArray) : items.foldl (fun bytes item => bytes ++ encode item) front
      = front ++ joined encode items := by
    induction items generalizing front with
    | nil => exact ByteArray.append_empty.symm
    | cons first rest ih => rw [List.foldl_cons, ih, joined, ByteArray.append_assoc]
  exact appended (encodeWord64 items.length)

/-- Items of some size at least take that much each when they are joined. -/
theorem size_joined_le {bound : Nat} (large : ∀ item ∈ items, bound ≤ (encode item).size)
    : bound * items.length ≤ (joined encode items).size := by
  induction items with
  | nil => exact Nat.zero_le _
  | cons first rest ih =>
      have here := large first List.mem_cons_self
      have there := ih fun item member => large item (List.mem_cons_of_mem _ member)
      rw [joined, ByteArray.size_append, List.length_cons, Nat.mul_succ, Nat.add_comm]
      exact Nat.add_le_add here there

/-- An item takes no more bytes than all of them together. -/
theorem size_le_joined {value : α} (member : value ∈ items)
    : (encode value).size ≤ (joined encode items).size := by
  induction items with
  | nil => cases member
  | cons first rest ih =>
      rw [joined, ByteArray.size_append]
      rcases List.mem_cons.mp member with rfl | later
      · exact Nat.le_add_right _ _
      · exact Nat.le_add_left_of_le (ih later)

/-- Items are read back one after the other, by induction on them. -/
theorem reads_many (read : ∀ value ∈ items, item.Reads (encode value) value)
    : (Decoder.many item items.length).Reads (joined encode items) items := by
  induction items with
  | nil => exact .pure []
  | cons first rest ih =>
      have later := ih fun value member => read value (List.mem_cons_of_mem _ member)
      exact (read first List.mem_cons_self).bind (later.last (.pure (first :: rest)))

/-- A list is read back from its length and its items. -/
theorem reads_list (read : ∀ value ∈ items, item.Reads (encode value) value)
    (fits : items.length < 2 ^ 64)
    : (Decoder.list item).Reads (encodeList encode items) items := by
  rw [encodeList_eq]
  exact (reads_word64 fits).bind (reads_many read)

end Lists

/-- The numbers of a header fit into their words. -/
structure Header.Fits (header : Header) : Prop where
  schema : header.schema < 2 ^ 32
  savedAt : header.savedAt < 2 ^ 64

/-- The header of an entry is read back field by field. -/
theorem reads_header {header : Header} (fits : header.Fits)
    (small : header.encode.size < 2 ^ 64)
    : Header.decoder.Reads header.encode header := by
  simp only [Header.encode, ByteArray.size_append, size_encodeText] at small
  rw [Header.decoder, Header.encode]
  simp only [ByteArray.append_assoc]
  refine (reads_word32 fits.schema).bind ?_
  refine (reads_text (by omega)).bind ?_
  refine (reads_word64 fits.savedAt).bind ?_
  refine (reads_text (by omega)).bind ?_
  exact (reads_text (by omega)).last (.pure header)

section Values

variable {α : Type} [Storable α] {entry : Saved α} {bytes : ByteArray}

/-- What is written for a value is read as that value, if it has no more bytes than an entry may
have.
-/
def Faithful (value : α) : Prop :=
  ∀ bytes,
    Storable.encode? value = .ok bytes
    → bytes.size ≤ entryLimit
    → (Storable.decoder : Decoder α).Reads bytes value

/-- An entry that could be written is read from its bytes wherever they stand, and so is its header,
which they start with.
-/
theorem Saved.reads_of_encode? (written : entry.encode? = .ok bytes) (fits : entry.header.Fits)
    (modified : entry.modified < 2 ^ 64) (faithful : Faithful entry.value)
    : Saved.decoder.Reads bytes entry
      ∧ Header.decoder.Reads entry.header.encode entry.header
      ∧ (∃ rest, bytes = entry.header.encode ++ rest)
      ∧ bytes.size ≤ entryLimit := by
  have limit : entryLimit < 2 ^ 64 := by decide
  rw [Saved.encode?] at written
  cases encoded : Storable.encode? entry.value with
  | error e => rw [encoded] at written; cases written
  | ok value =>
      rw [encoded] at written
      simp only [bind, Except.bind] at written
      split at written
      case isFalse => cases written
      case isTrue small =>
        obtain rfl := Except.ok.inj written
        have sizes := small
        rw [Saved.bytesWith, ByteArray.size_append, ByteArray.size_append] at sizes
        have header := reads_header fits (by omega)
        have split : entry.bytesWith value
            = entry.header.encode ++ (encodeWord64 entry.modified ++ value) := by
          rw [Saved.bytesWith, ByteArray.append_assoc]
        refine ⟨?_, header, ⟨_, split⟩, small⟩
        rw [Saved.decoder, split]
        refine header.bind ?_
        refine (reads_word64 modified).bind ?_
        exact (faithful value encoded (by omega)).last (.pure entry)

theorem extract_of_size_le {limit : Nat} (small : bytes.size ≤ limit)
    : bytes.extract 0 limit = bytes := by
  rw [← Nat.max_eq_left small, ByteArray.extract_zero_max_size]

/-- An entry that could be written is read as it was, and its header on its own as well. -/
theorem Saved.decode?_of_encode? (written : entry.encode? = .ok bytes) (fits : entry.header.Fits)
    (modified : entry.modified < 2 ^ 64) (faithful : Faithful entry.value)
    : Saved.decode? bytes = some entry
      ∧ Header.decode? bytes = some entry.header
      ∧ bytes.size ≤ entryLimit := by
  obtain ⟨whole, front, ⟨rest, starts⟩, small⟩ :=
    Saved.reads_of_encode? written fits modified faithful
  refine ⟨?_, ?_, small⟩
  · rw [Saved.decode?, if_pos small]
    exact whole.runWhole
  · rw [Header.decode?, extract_of_size_le small, starts]
    exact front.runFront rest

end Values

/-- A path that is a text is the path that the text spells. -/
theorem ofString_text {p : Path} (isText : p.text?.isSome = true)
    : Path.ofString p.text = p := by
  obtain ⟨s, spelled⟩ := Option.isSome_iff_exists.mp isText
  have bytes : Text.toBytes s = p.bytes := Text.toBytes_of_ofBytes? spelled
  have text : p.text = s := by
    rw [Path.text, ← bytes]
    exact Text.ofBytesLossy_toBytes s
  rw [Path.ofString, text, bytes]

/-- A path that is a text is read back from that text. -/
theorem reads_path {p : Path} (isText : p.text?.isSome = true)
    (fits : p.text.utf8ByteSize < 2 ^ 64)
    : pathDecoder.Reads (encodeText p.text) p := by
  refine (reads_text fits).last ?_
  rw [ofString_text isText]
  exact .pure p

/-- A discovery with such paths is read back field by field. -/
theorem reads_discovery {found : Discovery} (texts : hasTextPaths found = true)
    (fits : found.file.modified < 2 ^ 64) (small : (encodeDiscovery found).size < 2 ^ 64)
    : discoveryDecoder.Reads (encodeDiscovery found) found := by
  simp only [encodeDiscovery, ByteArray.size_append, size_encodeText] at small
  obtain ⟨path, file⟩ := Bool.and_eq_true_iff.mp texts
  rw [discoveryDecoder, encodeDiscovery]
  simp only [ByteArray.append_assoc]
  refine (reads_text (by omega)).bind ?_
  refine (reads_path path (by omega)).bind ?_
  refine (reads_path file (by omega)).bind ?_
  refine (reads_text (by omega)).bind ?_
  exact (reads_word64 fits).last (.pure found)

/-- Discoveries are read as they were written. -/
theorem faithful_discoveries {found : List Discovery}
    (fits : ∀ discovery ∈ found, discovery.file.modified < 2 ^ 64)
    : Faithful found := by
  intro bytes written small
  have limit : entryLimit < 2 ^ 64 := by decide
  simp only [Storable.encode?] at written
  split at written
  case isFalse => cases written
  case isTrue texts =>
    obtain rfl := Except.ok.inj written
    rw [encodeList_eq, ByteArray.size_append] at small
    have count : 1 * found.length ≤ (joined encodeDiscovery found).size := by
      refine size_joined_le fun discovery _ => ?_
      simp only [encodeDiscovery, ByteArray.size_append, size_encodeText]
      omega
    refine reads_list (fun discovery member => ?_) (by omega)
    have size : (encodeDiscovery discovery).size ≤ (joined encodeDiscovery found).size :=
      size_le_joined member
    exact reads_discovery (List.all_eq_true.mp texts discovery member) (fits discovery member)
      (by omega)

end EarlyBreak.Cache
