import EarlyBreak.Cache.Basic
import EarlyBreak.Proofs.Cache.Decoding
import EarlyBreak.Proofs.FileTree.Folder

/-! What the folder of a cache holds that nobody else writes to: for each fingerprint at most the
entry that was written last.  Looking up, writing and collecting keep that, and what each of them
does to the folder depends on nothing else.
-/

namespace EarlyBreak.Cache

open FileTree (LeadsTo OnlyFiles fileRefusal? refusal?)
open EarlyBreak.Path (IsPlain slash)

/-- The name of the file of the entry with a fingerprint. -/
def fileNameOf (fingerprint : String) : FileName := Text.toBytes (entryName fingerprint)

variable {fingerprint other key : String}

theorem fileNameOf_eq (fingerprint : String)
    : fileNameOf fingerprint = Text.toBytes fingerprint ++ entryEnding := by
  simp [fileNameOf, entryName, Text.toBytes, entryEnding]

/-- Fingerprints with one file name are one, as the names end alike. -/
theorem fileNameOf_injective (same : fileNameOf fingerprint = fileNameOf other)
    : fingerprint = other := by
  rw [fileNameOf_eq, fileNameOf_eq, List.append_cancel_right_eq] at same
  have texts := congrArg Text.ofBytes? same
  rwa [Text.ofBytes?_toBytes, Text.ofBytes?_toBytes, Option.some.injEq] at texts

theorem ending_facts
    : entryEnding.length = 4 ∧ slash ∉ entryEnding ∧ entryEnding.getLast? = some 0x6E
      ∧ (Text.toBytes ".tmp.1.0").getLast? = some 0x30 := by
  decide +kernel

/-- A fingerprint is made of hex digits, so it has no slash and is not empty. -/
theorem bytes_fingerprint (bytes : List UInt8)
    : slash ∉ Text.toBytes (Sha256.fingerprint bytes)
      ∧ Text.toBytes (Sha256.fingerprint bytes) ≠ [] := by
  have digit : ∀ value < 16, slash ∉ String.utf8EncodeChar (Text.lowerHexDigit value) := by
    decide
  have written : Text.toBytes (Sha256.fingerprint bytes)
      = (Sha256.hash bytes).flatMap fun byte =>
          String.utf8EncodeChar (Text.lowerHexDigit (byte.toNat / 16))
            ++ String.utf8EncodeChar (Text.lowerHexDigit (byte.toNat % 16)) := by
    simp [Sha256.fingerprint, Text.hexOfBytes, Text.toBytes, List.utf8Encode, List.flatMap_assoc]
  rw [written]
  constructor
  · simp only [List.mem_flatMap, List.mem_append, not_exists, not_and, not_or]
    intro byte _
    have small : byte.toNat < 256 := byte.toNat_lt
    exact ⟨digit _ (by omega), digit _ (by omega)⟩
  · simp [Sha256.hash, Sha256.bigEndian, List.range_succ]

/-- The file of an entry has a name that a folder can have, since a fingerprint is made of hex
digits.
-/
theorem plain_fileNameOf (key : String)
    : IsPlain (fileNameOf (fingerprintOf key)) := by
  obtain ⟨length, noSlash, _, _⟩ := ending_facts
  rw [fileNameOf_eq]
  refine Path.isPlain_of_length (by simp [fingerprintOf, bytes_fingerprint, noSlash]) ?_
  rw [List.length_append, length]
  omega

/-- The files of entries are told from others by their ending. -/
theorem entryStem?_fileNameOf (key : String)
    : entryStem? (fileNameOf (fingerprintOf key)) = some (Text.toBytes (fingerprintOf key)) := by
  have nonempty := List.length_pos_iff.mpr (bytes_fingerprint (Text.toBytes key)).2
  have longer : entryEnding.length < (fileNameOf (fingerprintOf key)).length := by
    rw [fileNameOf_eq, List.length_append]
    exact Nat.lt_add_of_pos_left nonempty
  rw [entryStem?, if_pos ⟨longer, by simp [fileNameOf_eq]⟩]
  simp [fileNameOf_eq]

/-- No entry is kept in a temporary file. -/
theorem temporaryName_ne (name : FileName) (fingerprint : String)
    : FileTree.temporaryName name ≠ fileNameOf fingerprint := by
  obtain ⟨_, _, last, temporary⟩ := ending_facts
  intro same
  have ends := congrArg List.getLast? same
  rw [FileTree.temporaryName, fileNameOf_eq, List.getLast?_append, List.getLast?_append, last,
    temporary] at ends
  simp at ends

section Entries

variable {α : Type} [Storable α] {entry : Saved α} {written : List (Saved α)} {root : Path}
  {files : List (FileName × FileNode)} {name : FileName} {node : FileNode} {now : Nat}

/-- An entry as this version of the program writes it. -/
structure Proper (entry : Saved α) : Prop where
  current : entry.header.isCurrent = true
  fingerprint : entry.header.fingerprint = fingerprintOf entry.header.key
  fits : entry.header.Fits
  modified : entry.modified < 2 ^ 64
  faithful : Faithful entry.value

/-- An entry with times of 64 bits and a value that can be stored is proper. -/
theorem proper_entryFor {modified : Nat} {value : α} (early : now < 2 ^ 64)
    (fits : modified < 2 ^ 64) (faithful : Faithful value) (key : String)
    : Proper (entryFor now key modified value) where
  current := by simp [Header.isCurrent, entryFor]
  fingerprint := rfl
  fits := ⟨show schemaVersion < 2 ^ 32 by decide, early⟩
  modified := fits
  faithful := faithful

/-- A file holds an entry, under the name for it and at a path that is not refused. -/
structure IsFileOf (root : Path) (entry : Saved α) (name : FileName) (node : FileNode) :
    Prop where
  proper : Proper entry
  named : name = fileNameOf entry.header.fingerprint
  reachable : fileRefusal? root name = none
  contents : ∃ bytes, entry.encode? = .ok bytes ∧ node = .file bytes entry.header.savedAt

theorem IsFileOf.plain (held : IsFileOf root entry name node)
    : IsPlain name := by
  rw [held.named, held.proper.fingerprint]
  exact plain_fileNameOf _

/-- Of the entries that were written, the last one first, the latest with a fingerprint. -/
def latest? (written : List (Saved α)) (fingerprint : String) : Option (Saved α) :=
  written.find? (·.header.fingerprint == fingerprint)

/-- What the files of a folder hold are the latest entries for some of the fingerprints. -/
structure Holds (root : Path) (written : List (Saved α)) (files : List (FileName × FileNode)) :
    Prop where
  distinct : Index.Unique files
  latest : ∀ {name node},
    files.lookup name = some node
    → ∃ entry,
        latest? written entry.header.fingerprint = some entry ∧ IsFileOf root entry name node

namespace Holds

theorem empty (root : Path) (written : List (Saved α))
    : Holds root written [] :=
  ⟨List.nodup_nil, nofun⟩

/-- No name comes twice in the folder, so each file is found by its name. -/
theorem lookup_of_mem (holds : Holds root written files) (member : (name, node) ∈ files)
    : files.lookup name = some node := by
  rw [FileNode.lookup_eq_find?]
  exact holds.distinct.mem_iff.mp member

/-- Each file in the folder holds the last entry that was written for its fingerprint. -/
theorem latest_of_mem (holds : Holds root written files) (member : (name, node) ∈ files)
    : ∃ entry,
        latest? written entry.header.fingerprint = some entry ∧ IsFileOf root entry name node :=
  holds.latest (holds.lookup_of_mem member)

theorem onlyFiles (holds : Holds root written files)
    : OnlyFiles files := by
  rintro ⟨name, node⟩ member
  obtain ⟨entry, _, held⟩ := holds.latest_of_mem member
  obtain ⟨bytes, _, rfl⟩ := held.contents
  rfl

/-- A file with the name of an entry holds the latest one for its fingerprint. -/
theorem latest_of_lookup (holds : Holds root written files)
    (found : files.lookup (fileNameOf fingerprint) = some node)
    : ∃ entry,
        latest? written fingerprint = some entry
        ∧ entry.header.fingerprint = fingerprint
        ∧ IsFileOf root entry (fileNameOf fingerprint) node := by
  obtain ⟨entry, latest, held⟩ := holds.latest found
  have same := fileNameOf_injective held.named
  rw [← same] at latest
  exact ⟨entry, latest, same.symm, held⟩

/-- A folder that loses files still holds nothing but last entries. -/
theorem filter (holds : Holds root written files) (kept : FileName → Bool)
    : Holds root written (files.filter (kept ·.1)) where
  distinct := List.Nodup.sublist (List.filter_sublist.map Prod.fst) holds.distinct
  latest := by
    intro name node found
    rw [FileNode.lookup_filter] at found
    split at found
    · exact holds.latest found
    · cases found

/-- A new entry takes the place of the latest one with its fingerprint. -/
theorem write (holds : Holds root written files) (held : IsFileOf root entry name node)
    : Holds root (entry :: written) (FileNode.setEntry name node files) where
  distinct := by
    rw [FileNode.setEntry_eq_set]
    exact holds.distinct.set
  latest := by
    intro other node' found
    rw [FileNode.lookup_setEntry] at found
    split at found
    case isTrue same =>
      obtain rfl := Option.some.inj found
      exact ⟨entry, by simp [latest?], same ▸ held⟩
    case isFalse different =>
      obtain ⟨old, latest, still⟩ := holds.latest found
      refine ⟨old, ?_, still⟩
      have apart : entry.header.fingerprint ≠ old.header.fingerprint := by
        intro same
        exact different (by rw [still.named, held.named, same])
      rwa [latest?, List.find?_cons_of_neg (by simpa using apart)]

end Holds

/-- What is stored in the file of an entry. -/
theorem IsFileOf.decode (held : IsFileOf root entry name node)
    : ∃ bytes,
        node = .file bytes entry.header.savedAt
        ∧ Saved.decode? bytes = some entry
        ∧ Header.decode? bytes = some entry.header
        ∧ bytes.size ≤ entryLimit := by
  obtain ⟨bytes, encoded, same⟩ := held.contents
  have proper := held.proper
  exact ⟨bytes, same, Saved.decode?_of_encode? encoded proper.fits proper.modified proper.faithful⟩

/-- A collection keeps the entries that are not too old. -/
theorem IsFileOf.judge (held : IsFileOf root entry name node) (policy : Policy) (now : Nat)
    : ∃ size ≤ entryLimit,
        judge policy now name node
          = if entry.header.isExpired now policy.timeToLive then .discarded
            else .kept entry.header.savedAt size := by
  obtain ⟨bytes, rfl, _, header, small⟩ := held.decode
  refine ⟨bytes.size, small, ?_⟩
  rw [Cache.judge, held.named, held.proper.fingerprint, entryStem?_fileNameOf]
  simp only [judgeEntry, Nat.not_lt.mpr small, if_false, header, held.proper.current,
    Text.ofBytes?_toBytes, held.proper.fingerprint]
  simp

end Entries

end EarlyBreak.Cache
