import EarlyBreak.Proofs.Cache.Decoding

/-! The format of entries: bytes are read as an entry exactly if they are what is written for it.
Each decoder takes nothing but what its encoder writes, so no bytes are read that nothing writes,
and none that something follows.
-/

namespace EarlyBreak.Cache

/-- A decoder takes nothing from bytes, wherever it starts, but what spells the value it gives, and
stops behind that.
-/
def Decoder.Takes {α : Type} (decoder : Decoder α) (spells : ByteArray → α → Prop) : Prop :=
  ∀ before rest value next,
    (decoder.run (before ++ rest)).run before.size = some (value, next)
    → ∃ bytes after, rest = bytes ++ after ∧ next = (before ++ bytes).size ∧ spells bytes value

namespace Decoder.Takes

variable {α β : Type} {decoder : Decoder α} {next : α → Decoder β}
  {spells other : ByteArray → α → Prop} {continues : α → ByteArray → β → Prop}
  {bytes : ByteArray} {value : α}

theorem mono (takes : decoder.Takes spells)
    (weaker : ∀ bytes value, spells bytes value → other bytes value)
    : decoder.Takes other := by
  intro before rest value next read
  obtain ⟨bytes, after, split, stops, spelled⟩ := takes before rest value next read
  exact ⟨bytes, after, split, stops, weaker bytes value spelled⟩

theorem pure (value : α)
    : Takes (Pure.pure value) fun bytes result => bytes = .empty ∧ result = value := by
  rintro before rest result next ⟨⟩
  exact ⟨.empty, rest, ByteArray.empty_append.symm, by rw [ByteArray.append_empty], rfl, rfl⟩

theorem failure : Takes (failure : Decoder α) spells := nofun

/-- What two decoders take one after the other is what the first takes and then the second. -/
theorem bind (first : decoder.Takes spells) (second : ∀ value, (next value).Takes (continues value))
    : (decoder >>= next).Takes fun bytes result =>
        ∃ front back value,
          bytes = front ++ back ∧ spells front value ∧ continues value back result := by
  intro before rest result stop read
  rw [ReaderT.run_bind, StateT.run_bind] at read
  obtain ⟨⟨value, middle⟩, began, goesOn⟩ := Option.bind_eq_some_iff.mp read
  obtain ⟨front, after, rfl, rfl, spelled⟩ := first before rest value middle began
  rw [← ByteArray.append_assoc] at goesOn
  obtain ⟨back, left, rfl, rfl, continued⟩ :=
    second value (before ++ front) after result stop goesOn
  exact ⟨front ++ back, left, ByteArray.append_assoc.symm, by rw [ByteArray.append_assoc],
    front, back, value, rfl, spelled, continued⟩

/-- A decoder that succeeds has taken the beginning of the bytes. -/
theorem runFront (takes : decoder.Takes spells) (decoded : decoder.runFront bytes = some value)
    : ∃ front after, bytes = front ++ after ∧ spells front value := by
  obtain ⟨⟨value, stop⟩, read, rfl⟩ := Option.map_eq_some_iff.mp decoded
  rw [← ByteArray.empty_append (b := bytes)] at read
  obtain ⟨front, after, split, -, spelled⟩ := takes .empty bytes value stop read
  exact ⟨front, after, split, spelled⟩

/-- And all of them, if nothing may be left. -/
theorem runWhole (takes : decoder.Takes spells) (decoded : decoder.runWhole bytes = some value)
    : spells bytes value := by
  unfold Decoder.runWhole at decoded
  split at decoded
  case h_2 => cases decoded
  case h_1 value stop read =>
    split at decoded
    case isFalse => cases decoded
    case isTrue ends =>
      obtain rfl := Option.some.inj decoded
      rw [← ByteArray.empty_append (b := bytes)] at read
      obtain ⟨front, after, split, stops, spelled⟩ := takes .empty bytes value stop read
      -- Nothing is left behind what was taken.
      rw [ByteArray.empty_append] at stops
      have none : after.size = 0 := by
        have sizes := congrArg ByteArray.size split
        rw [ByteArray.size_append] at sizes
        omega
      rwa [split, ByteArray.size_eq_zero_iff.mp none, ByteArray.append_empty]

end Decoder.Takes

theorem exists_append_of_le_size {bytes : ByteArray} {position : Nat}
    (inside : position ≤ bytes.size)
    : ∃ before after, bytes = before ++ after ∧ before.size = position := by
  refine ⟨bytes.extract 0 position, bytes.extract position bytes.size, ?_, ?_⟩
  · rw [ByteArray.extract_append_extract, Nat.zero_min, Nat.max_eq_right inside,
      ByteArray.extract_zero_size]
  · rw [ByteArray.size_extract, Nat.min_eq_left inside, Nat.sub_zero]

theorem takes_take (count : Nat)
    : (Decoder.take count).Takes fun bytes value => bytes.size = count ∧ value = bytes := by
  intro before rest value next read
  have inside : count ≤ rest.size := by
    rw [take_run] at read
    split at read
    case isTrue fits => exact Nat.le_of_add_le_add_left (fits.trans_eq ByteArray.size_append)
    case isFalse => cases read
  obtain ⟨bytes, after, rfl, rfl⟩ := exists_append_of_le_size inside
  rw [← ByteArray.append_assoc, reads_take] at read
  obtain ⟨rfl, rfl⟩ := Prod.mk.inj (Option.some.inj read)
  exact ⟨bytes, after, rfl, ByteArray.size_append.symm, rfl, rfl⟩

/-- A number is spelled by its own bytes, by induction along them. -/
theorem encodeNat_decodeNat (bytes : List UInt8)
    : encodeNat bytes.length (decodeNat bytes) = bytes := by
  induction bytes with
  | nil => rfl
  | cons byte rest ih =>
      have small : byte.toNat < 256 := byte.toNat_lt
      have low : (byte.toNat + 256 * decodeNat rest) % 256 = byte.toNat := by omega
      have high : (byte.toNat + 256 * decodeNat rest) / 256 = decodeNat rest := by omega
      rw [List.length_cons, decodeNat, encodeNat, low, high, ih, UInt8.ofNat_toNat]

/-- What is decoded from some bytes fits that many, by induction on them. -/
theorem decodeNat_lt (bytes : List UInt8)
    : decodeNat bytes < 256 ^ bytes.length := by
  induction bytes with
  | nil => exact Nat.one_pos
  | cons byte rest ih =>
      have small : byte.toNat < 256 := byte.toNat_lt
      rw [decodeNat, List.length_cons, Nat.pow_succ']
      omega

/-- A number is taken from exactly the bytes that are written of it. -/
theorem takes_number (width : Nat)
    : (Decoder.number width).Takes fun bytes n =>
        n < 256 ^ width ∧ bytes = bytesOf (encodeNat width n) := by
  refine ((takes_take width).bind fun bytes => .pure (decodeNat bytes.data.toList)).mono ?_
  rintro _ n ⟨_, _, bytes, rfl, ⟨rfl, rfl⟩, rfl, rfl⟩
  rw [ByteArray.append_empty]
  have size : bytes.size = bytes.data.toList.length := rfl
  rw [size]
  refine ⟨decodeNat_lt bytes.data.toList, ?_⟩
  rw [encodeNat_decodeNat]
  rfl

theorem takes_word32
    : Decoder.word32.Takes fun bytes n => n < 2 ^ 32 ∧ bytes = encodeWord32 n :=
  takes_number 4

theorem takes_word64
    : Decoder.word64.Takes fun bytes n => n < 2 ^ 64 ∧ bytes = encodeWord64 n :=
  takes_number 8

/-- A text is taken from exactly its length and its bytes. -/
theorem takes_text
    : Decoder.text.Takes fun bytes s => s.utf8ByteSize < 2 ^ 64 ∧ bytes = encodeText s := by
  refine Decoder.Takes.mono (takes_word64.bind fun count => (takes_take count).bind fun content =>
    show Decoder.Takes _ fun bytes s => bytes = .empty ∧ String.fromUTF8? content = some s from ?_)
    ?_
  · cases text : String.fromUTF8? content with
    | none => exact .failure
    | some s =>
        refine (Decoder.Takes.pure s).mono ?_
        rintro bytes _ ⟨rfl, rfl⟩
        exact ⟨rfl, rfl⟩
  · rintro _ s ⟨_, _, _, rfl, ⟨fits, rfl⟩, content, _, _, rfl, ⟨rfl, rfl⟩, rfl, text⟩
    obtain rfl := Text.toUTF8_of_fromUTF8? text
    exact ⟨fits, by rw [ByteArray.append_empty]; rfl⟩

section Lists

variable {α : Type} {encode : α → ByteArray} {good : α → Prop} {item : Decoder α}

/-- Items are taken one after the other, by induction along their number. -/
theorem takes_many (takes : item.Takes fun bytes value => good value ∧ bytes = encode value)
    (count : Nat)
    : (Decoder.many item count).Takes fun bytes items =>
        items.length = count ∧ (∀ value ∈ items, good value) ∧ bytes = joined encode items := by
  induction count with
  | zero =>
      refine (Decoder.Takes.pure []).mono ?_
      rintro bytes items ⟨rfl, rfl⟩
      exact ⟨rfl, nofun, rfl⟩
  | succ count ih =>
      refine (takes.bind fun first => ih.bind fun rest => .pure (first :: rest)).mono ?_
      rintro _ _ ⟨_, _, first, rfl, ⟨here, rfl⟩, _, _, rest, rfl, ⟨length, there, rfl⟩, rfl, rfl⟩
      refine ⟨congrArg (· + 1) length, ?_, by rw [ByteArray.append_empty]; rfl⟩
      exact List.forall_mem_cons.mpr ⟨here, there⟩

/-- A list is taken from exactly its length and what is written of its items. -/
theorem takes_list (takes : item.Takes fun bytes value => good value ∧ bytes = encode value)
    : (Decoder.list item).Takes fun bytes items =>
        (∀ value ∈ items, good value) ∧ bytes = encodeList encode items := by
  refine (takes_word64.bind fun count => takes_many takes count).mono ?_
  rintro _ items ⟨_, _, _, rfl, ⟨-, rfl⟩, rfl, all, rfl⟩
  exact ⟨all, (encodeList_eq encode items).symm⟩

end Lists

/-- A header is taken from exactly what is written of it, and its fields fit. -/
theorem takes_header
    : Header.decoder.Takes fun bytes header => header.Fits ∧ bytes = header.encode := by
  refine (takes_word32.bind fun schema => takes_text.bind fun version =>
    takes_word64.bind fun savedAt => takes_text.bind fun key =>
    takes_text.bind fun fingerprint =>
      .pure (⟨schema, version, savedAt, key, fingerprint⟩ : Header)).mono ?_
  rintro _ _ ⟨_, _, schema, rfl, ⟨small, rfl⟩, _, _, version, rfl, ⟨-, rfl⟩, _, _, savedAt, rfl,
    ⟨recent, rfl⟩, _, _, key, rfl, ⟨-, rfl⟩, _, _, fingerprint, rfl, ⟨-, rfl⟩, rfl, rfl⟩
  refine ⟨⟨small, recent⟩, ?_⟩
  simp only [Header.encode, ByteArray.append_assoc, ByteArray.append_empty]

/-- A path is taken exactly if it is spelled by a text, as any other text is. -/
theorem takes_path
    : pathDecoder.Takes fun bytes p => p.text?.isSome = true ∧ bytes = encodeText p.text := by
  refine (takes_text.bind fun s => .pure (Path.ofString s)).mono ?_
  rintro _ _ ⟨_, _, s, rfl, ⟨-, rfl⟩, rfl, rfl⟩
  have known : (Path.ofString s).text? = some s := Text.ofBytes?_toBytes s
  have text : (Path.ofString s).text = s := Text.ofBytesLossy_toBytes s
  rw [known, text, ByteArray.append_empty]
  exact ⟨rfl, rfl⟩

/-- A discovery is taken from exactly what is written of it, and its paths are texts. -/
theorem takes_discovery
    : discoveryDecoder.Takes fun bytes found =>
        (hasTextPaths found = true ∧ found.file.modified < 2 ^ 64)
        ∧ bytes = encodeDiscovery found := by
  refine (takes_text.bind fun sourceUrl => takes_path.bind fun path =>
    takes_path.bind fun file => takes_text.bind fun mapUrl =>
    takes_word64.bind fun modified =>
      .pure (⟨sourceUrl, path, ⟨file, mapUrl, modified⟩⟩ : Discovery)).mono ?_
  rintro _ _ ⟨_, _, sourceUrl, rfl, ⟨-, rfl⟩, _, _, path, rfl, ⟨isText, rfl⟩, _, _, file, rfl,
    ⟨alsoText, rfl⟩, _, _, mapUrl, rfl, ⟨-, rfl⟩, _, _, modified, rfl, ⟨recent, rfl⟩, rfl, rfl⟩
  refine ⟨⟨Bool.and_eq_true_iff.mpr ⟨isText, alsoText⟩, recent⟩, ?_⟩
  simp only [encodeDiscovery, ByteArray.append_assoc, ByteArray.append_empty]

/-- The numbers of an entry fit into their words. -/
structure Entry.Fits (entry : Entry) : Prop where
  header : entry.header.Fits
  modified : entry.modified < 2 ^ 64
  found : ∀ discovery ∈ entry.value, discovery.file.modified < 2 ^ 64

/-- An entry is taken from exactly what is written of it. -/
theorem takes_entry
    : (Saved.decoder : Decoder Entry).Takes fun bytes (entry : Entry) =>
        entry.Fits ∧ entry.value.all hasTextPaths = true ∧ bytes = entry.encode := by
  refine (takes_header.bind fun header => takes_word64.bind fun modified =>
    (takes_list takes_discovery).bind fun found =>
      .pure (⟨header, modified, found⟩ : Entry)).mono ?_
  rintro _ _ ⟨_, _, header, rfl, ⟨fits, rfl⟩, _, _, modified, rfl, ⟨recent, rfl⟩, _, _, found, rfl,
    ⟨all, rfl⟩, rfl, rfl⟩
  refine ⟨⟨fits, recent, fun discovery member => (all discovery member).2⟩, ?_, ?_⟩
  · exact List.all_eq_true.mpr fun discovery member => (all discovery member).1
  · simp only [Entry.encode, Saved.bytesWith, ByteArray.append_assoc, ByteArray.append_empty]

/-- Bytes are read as an entry exactly if they are written for it. -/
theorem Entry.decode?_eq_some_iff {bytes : ByteArray} {entry : Entry}
    : Saved.decode? bytes = some entry ↔ entry.Fits ∧ entry.encode? = .ok bytes := by
  constructor
  · intro decoded
    rw [Saved.decode?] at decoded
    split at decoded
    case isFalse => cases decoded
    case isTrue small =>
      obtain ⟨fits, texts, rfl⟩ := takes_entry.runWhole decoded
      have written : Storable.encode? entry.value
          = .ok (encodeList encodeDiscovery entry.value) := if_pos texts
      refine ⟨fits, ?_⟩
      rw [Saved.encode?, written]
      exact if_pos small
  · rintro ⟨fits, written⟩
    exact (Saved.decode?_of_encode? written fits.header fits.modified
      (faithful_discoveries fits.found)).1

/-- Bytes are read as a header exactly if they start with what is written for it. -/
theorem Header.decode?_eq_some_iff {bytes : ByteArray} {header : Header}
    : Header.decode? bytes = some header
      ↔ header.Fits
        ∧ header.encode.size ≤ entryLimit
        ∧ ∃ rest, bytes = header.encode ++ rest := by
  constructor
  · intro decoded
    obtain ⟨_, after, split, fits, rfl⟩ := takes_header.runFront decoded
    refine ⟨fits, ?_, after ++ bytes.extract entryLimit bytes.size, ?_⟩
    · have sizes := congrArg ByteArray.size split
      rw [ByteArray.size_extract, ByteArray.size_append] at sizes
      omega
    · rw [← ByteArray.append_assoc, ← split, ByteArray.extract_append_extract, Nat.zero_min]
      exact ByteArray.extract_zero_max_size.symm
  · rintro ⟨fits, small, rest, rfl⟩
    have limit : entryLimit < 2 ^ 64 := by decide
    have front : (header.encode ++ rest).extract 0 entryLimit
        = header.encode ++ rest.extract 0 (entryLimit - header.encode.size) := by
      rw [ByteArray.extract_append, extract_of_size_le small, Nat.zero_sub]
    rw [Header.decode?, front]
    exact (reads_header fits (by omega)).runFront _

/-- Nothing is read from bytes that go on behind an entry. -/
theorem Entry.decode?_append {bytes more : ByteArray} {entry : Entry} (fits : entry.Fits)
    (written : entry.encode? = .ok bytes) (longer : more ≠ .empty)
    : (Saved.decode? (bytes ++ more) : Option Entry) = none := by
  have read := (Saved.reads_of_encode? written fits.header fits.modified
    (faithful_discoveries fits.found)).1 .empty more
  rw [ByteArray.empty_append] at read
  have stops : bytes.size ≠ (bytes ++ more).size := by
    have size : more.size ≠ 0 := mt ByteArray.size_eq_zero_iff.mp longer
    rw [ByteArray.size_append]
    omega
  have unread : Decoder.runWhole (Saved.decoder : Decoder Entry) (bytes ++ more) = none := by
    rw [Decoder.runWhole, show (0 : Nat) = ByteArray.empty.size from rfl, read]
    simpa using stops
  rw [Saved.decode?, unread, ite_self]

/-- A text is read exactly where one is written: nothing is read if its length goes beyond the bytes
or if they are no text.
-/
theorem text_eq_some_iff {bytes : ByteArray} {position next : Nat} {s : String}
    : (Decoder.text.run bytes).run position = some (s, next)
      ↔ s.utf8ByteSize < 2 ^ 64
        ∧ ∃ before after,
          bytes = before ++ encodeText s ++ after
          ∧ position = before.size
          ∧ next = (before ++ encodeText s).size := by
  constructor
  · intro read
    have inside : position ≤ bytes.size := by
      rw [Decoder.text, ReaderT.run_bind, StateT.run_bind] at read
      obtain ⟨length, began, -⟩ := Option.bind_eq_some_iff.mp read
      rw [Decoder.word64, Decoder.number, ReaderT.run_bind, StateT.run_bind, take_run] at began
      split at began
      case isTrue fits => exact Nat.le_of_add_right_le fits
      case isFalse => cases began
    obtain ⟨before, rest, rfl, rfl⟩ := exists_append_of_le_size inside
    obtain ⟨_, after, rfl, stops, fits, rfl⟩ := takes_text before rest s next read
    exact ⟨fits, before, after, ByteArray.append_assoc.symm, rfl, stops⟩
  · rintro ⟨fits, before, after, rfl, rfl, rfl⟩
    rw [ByteArray.size_append]
    exact reads_text fits before after

/-- Bytes are read as an entry exactly if they are written for it, and as a header exactly if they
start with what is written for that.  An entry's header is that of its bytes; it has no more bytes
than are allowed, and nothing is read from them once something follows.  A text in them is read
exactly where it is written, with its whole length and as UTF-8.
-/
theorem read_iff_written (bytes : ByteArray)
    : (∀ entry : Entry,
        Saved.decode? bytes = some entry ↔ entry.Fits ∧ entry.encode? = .ok bytes)
      ∧ (∀ header,
        Header.decode? bytes = some header
        ↔ header.Fits
          ∧ header.encode.size ≤ entryLimit
          ∧ ∃ rest, bytes = header.encode ++ rest)
      ∧ (∀ entry : Entry,
        Saved.decode? bytes = some entry
        → Header.decode? bytes = some entry.header
          ∧ bytes.size ≤ entryLimit
          ∧ ∀ more ≠ .empty, (Saved.decode? (bytes ++ more) : Option Entry) = none)
      ∧ ∀ position s next,
        (Decoder.text.run bytes).run position = some (s, next)
        ↔ s.utf8ByteSize < 2 ^ 64
          ∧ ∃ before after,
            bytes = before ++ encodeText s ++ after
            ∧ position = before.size
            ∧ next = (before ++ encodeText s).size := by
  refine ⟨fun _ => Entry.decode?_eq_some_iff, fun _ => Header.decode?_eq_some_iff, ?_,
    fun _ _ _ => text_eq_some_iff⟩
  intro entry decoded
  obtain ⟨fits, written⟩ := Entry.decode?_eq_some_iff.mp decoded
  obtain ⟨-, header, small⟩ := Saved.decode?_of_encode? written fits.header fits.modified
    (faithful_discoveries fits.found)
  exact ⟨header, small, fun more longer => Entry.decode?_append fits written longer⟩

end EarlyBreak.Cache
