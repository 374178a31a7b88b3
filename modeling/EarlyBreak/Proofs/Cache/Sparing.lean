import EarlyBreak.Proofs.Cache.History

/-! What looking up and collecting take out of a cache when its folder holds anything at all: any
bytes under any names, links and folders.  A look-up reads a whole entry by its key and a collection
only a header by the name of its file, so each has reasons of its own to remove a file.  Whatever
the reason, no look-up gives anything for that file, so what look-ups give stays as it is.
-/

namespace EarlyBreak.Cache

open FileTree (LeadsTo fileRefusal?)
open EarlyBreak.Path (IsPlain)

-----------------------------------------------------------------------------------------
-- What a look-up gives
-----------------------------------------------------------------------------------------

section Values

variable {α : Type} [Storable α] {entry : Saved α} {policy : Policy} {now modified : Nat}
  {key : String} {value : α} {held : Stored}

/-- An entry can be used for a key and time. -/
structure Answers (policy : Policy) (now : Nat) (key : String) (modified : Nat)
    (entry : Saved α) : Prop where
  current : entry.header.isCurrent = true
  fingerprint : entry.header.fingerprint = fingerprintOf key
  key : entry.header.key = key
  modified : entry.modified = modified
  fresh : entry.header.isExpired now policy.timeToLive = false

/-- What is stored in the file of a key is an entry with a value that can be used. -/
def Gives (policy : Policy) (now : Nat) (key : String) (modified : Nat) (held : Stored)
    (value : α) : Prop :=
  ∃ contents entry,
    held = .bytes contents
    ∧ Saved.decode? contents = some entry
    ∧ Answers policy now key modified entry
    ∧ entry.value = value

/-- A folder gives at most one value for a key and time. -/
theorem Gives.unique {other : α} (gives : Gives policy now key modified held value)
    (also : Gives policy now key modified held other)
    : value = other := by
  obtain ⟨contents, entry, rfl, decoded, -, rfl⟩ := gives
  obtain ⟨_, _, ⟨⟩, same, -, rfl⟩ := also
  rw [Option.some.inj (decoded.symm.trans same)]

/-- Bytes that are an entry start with its header. -/
theorem header_of_decode? {contents : ByteArray} (decoded : Saved.decode? contents = some entry)
    : Header.decode? contents = some entry.header := by
  rw [Saved.decode?] at decoded
  split at decoded
  case isFalse => cases decoded
  case isTrue small =>
    rw [Decoder.runWhole] at decoded
    split at decoded
    case h_2 => cases decoded
    case h_1 whole stop read =>
      split at decoded
      case isFalse => cases decoded
      case isTrue =>
        obtain rfl := Option.some.inj decoded
        rw [Saved.decoder, ReaderT.run_bind, StateT.run_bind] at read
        obtain ⟨⟨header, position⟩, first, goesOn⟩ := Option.bind_eq_some_iff.mp read
        rw [ReaderT.run_bind, StateT.run_bind] at goesOn
        obtain ⟨⟨time, position⟩, -, goesOn⟩ := Option.bind_eq_some_iff.mp goesOn
        rw [ReaderT.run_bind, StateT.run_bind] at goesOn
        obtain ⟨⟨value, position⟩, -, goesOn⟩ := Option.bind_eq_some_iff.mp goesOn
        cases goesOn
        rw [Header.decode?, extract_of_size_le small, Decoder.runFront, first]
        rfl

end Values

section Lookups

variable {α : Type} [Storable α] {cache : Cache} {tree : FileTree} {now modified : Nat}
  {key : String} {value : α}

/-- What a look-up can do with what is stored in the file of its key.  In this order: nothing there
is for that key and time, and it is left; nothing there is for any key of the file, and the file is
discarded; the value there is given.
-/
inductive LookedUp (cache : Cache) (tree : FileTree) (now : Nat) (key : String) (modified : Nat) :
    Option α × FileTree → Prop
  | left
    (unasked
      : ∀ value : α,
          ¬ Gives cache.policy now key modified
              (stored tree (cache.entryPath (fingerprintOf key))) value)
    : LookedUp cache tree now key modified (none, tree)
  | discarded
    (useless
      : ∀ (other : String) (time : Nat) (value : α),
          fingerprintOf other = fingerprintOf key
          → ¬ Gives cache.policy now other time
                (stored tree (cache.entryPath (fingerprintOf key))) value)
    : LookedUp cache tree now key modified
        (none, (discard tree (cache.entryPath (fingerprintOf key))).2)
  | given {value : α}
    (gives
      : Gives cache.policy now key modified
          (stored tree (cache.entryPath (fingerprintOf key))) value)
    : LookedUp cache tree now key modified (some value, tree)

/-- A lookup does one of the things that a lookup may do, by the cases of what is stored. -/
theorem lookedUp_lookup (α : Type) [Storable α] (cache : Cache) (tree : FileTree) (now : Nat)
    (key : String) (modified : Nat)
    : LookedUp cache tree now key modified
        (cache.lookup tree now key modified : Option α × FileTree) := by
  cases held : stored tree (cache.entryPath (fingerprintOf key)) with
  | missing =>
      simp only [lookup, held]
      exact .left (by simp [held, Gives])
  | unfit =>
      simp only [lookup, held]
      exact .discarded (by simp [held, Gives])
  | bytes contents =>
      cases decoded : (Saved.decode? contents : Option (Saved α)) with
      | none =>
          simp only [lookup, held, decoded]
          exact .discarded (by simp [held, Gives, decoded])
      | some entry =>
          have gives_iff (other : String) (time : Nat) (value : α)
              : Gives cache.policy now other time
                    (stored tree (cache.entryPath (fingerprintOf key))) value
                ↔ Answers cache.policy now other time entry ∧ entry.value = value := by
            simp [held, Gives, decoded]
          simp only [lookup, held, decoded]
          split
          case isTrue improper =>
            -- Neither reason to discard an entry depends on the key and time asked for.
            refine .discarded fun other time value alike gives => ?_
            have answers := ((gives_iff other time value).mp gives).1
            simp [answers.current, answers.fingerprint, alike] at improper
          case isFalse proper =>
            split
            case isTrue others =>
              refine .left fun value gives => ?_
              have answers := ((gives_iff key modified value).mp gives).1
              simp [answers.key, answers.modified] at others
            case isFalse wanted =>
              split
              case isTrue old =>
                refine .discarded fun other time value _ gives => ?_
                rw [((gives_iff other time value).mp gives).1.fresh] at old
                cases old
              case isFalse fresh =>
                refine .given ((gives_iff key modified entry.value).mpr ⟨?_, rfl⟩)
                simp only [Bool.or_eq_true, Bool.not_eq_true', bne_iff_ne, not_or, ne_eq,
                  Decidable.not_not, Bool.not_eq_false] at proper wanted
                exact ⟨proper.1, proper.2, wanted.1, wanted.2, by simpa using fresh⟩

/-- A look-up depends on nothing but what is stored in the file of its key. -/
theorem lookup_eq_some_iff
    : (cache.lookup tree now key modified : Option α × FileTree).1 = some value
      ↔ Gives cache.policy now key modified
          (stored tree (cache.entryPath (fingerprintOf key))) value := by
  have outcome := lookedUp_lookup α cache tree now key modified
  generalize (cache.lookup tree now key modified : Option α × FileTree) = result at outcome ⊢
  cases outcome with
  | left unasked => exact iff_of_false nofun (unasked value)
  | discarded useless => exact iff_of_false nofun (useless key modified value rfl)
  | given gives =>
      constructor
      · rintro same
        exact Option.some.inj same ▸ gives
      · exact fun also => congrArg some (gives.unique also)

end Lookups

-----------------------------------------------------------------------------------------
-- Taking files out of the folder
-----------------------------------------------------------------------------------------

section Folder

variable {cache : Cache} {tree : FileTree} {place : Place} {name : FileName} {root : Path}
  {files later : List (FileName × FileNode)} {contents : ByteArray} {lost other : FileName → Prop}

/-- Bytes are given only for a file that is there and is not too large. -/
theorem storedIn_eq_bytes (held : storedIn root files name = .bytes contents)
    : contents.size ≤ entryLimit
      ∧ ∃ modified, files.lookup name = some (.file contents modified) := by
  rw [storedIn] at held
  split at held
  case h_3 bytes modified _ present =>
    split at held
    case isTrue small =>
      cases held
      exact ⟨small, modified, present⟩
    case isFalse => cases held
  all_goals cases held

/-- Of the entries of a folder, only some with lost names are gone. -/
def Trims (lost : FileName → Prop) (files later : List (FileName × FileNode)) : Prop :=
  ∃ kept : FileName → Bool,
    later = files.filter (kept ·.1) ∧ ∀ name, kept name = false → lost name

namespace Trims

theorem refl (lost : FileName → Prop) (files : List (FileName × FileNode))
    : Trims lost files files :=
  ⟨fun _ => true, by simp, nofun⟩

theorem mono (trims : Trims lost files later) (weaker : ∀ name, lost name → other name)
    : Trims other files later := by
  obtain ⟨kept, rfl, gone⟩ := trims
  exact ⟨kept, rfl, fun name dropped => weaker name (gone name dropped)⟩

/-- What is lost in two steps is lost in all. -/
theorem trans {last : List (FileName × FileNode)} (first : Trims lost files later)
    (second : Trims lost later last)
    : Trims lost files last := by
  obtain ⟨kept, rfl, gone⟩ := first
  obtain ⟨still, rfl, goneLater⟩ := second
  refine ⟨fun name => still name && kept name, by rw [List.filter_filter], ?_⟩
  intro name dropped
  rcases Bool.and_eq_false_iff.mp dropped with second | first
  · exact goneLater name second
  · exact gone name first

theorem sublist (trims : Trims lost files later)
    : later.Sublist files := by
  obtain ⟨kept, rfl, _⟩ := trims
  exact List.filter_sublist

/-- A file is what it was, or it is one that may be lost. -/
theorem lookup_eq (trims : Trims lost files later) (name : FileName)
    : later.lookup name = files.lookup name ∨ later.lookup name = none ∧ lost name := by
  obtain ⟨kept, rfl, gone⟩ := trims
  rw [FileNode.lookup_filter]
  cases keeps : kept name with
  | true => exact Or.inl rfl
  | false => exact Or.inr ⟨rfl, gone name keeps⟩

end Trims

theorem trims_without (name : FileName) (files : List (FileName × FileNode))
    : Trims (· = name) files (files.filter (·.1 != name)) :=
  ⟨(· != name), rfl, fun other dropped => by simpa using dropped⟩

/-- Discarding a file takes at most that one out of the folder. -/
theorem discard_trims (bare : LeadsTo tree cache.root place []) (plain : IsPlain name)
    (files : List (FileName × FileNode))
    : ∃ later,
        (discard (tree.fill place files) (cache.pathOf name)).2 = tree.fill place later
        ∧ Trims (· = name) files later := by
  rw [discard, pathOf, (bare.fill files).remove?_own plain]
  cases fileRefusal? cache.root name with
  | some e => exact ⟨files, by cases e <;> rfl, .refl _ files⟩
  | none =>
      cases files.lookup name with
      | none => exact ⟨files, rfl, .refl _ files⟩
      | some node =>
          cases node with
          | folder => exact ⟨files, rfl, .refl _ files⟩
          | file | link =>
              exact ⟨_, FileTree.fill_fill bare files _, trims_without name files⟩

/-- Discarding files one after the other takes out nothing else, by induction on their names. -/
theorem sweep_trims (bare : LeadsTo tree cache.root place []) {names : List FileName}
    (plain : ∀ name ∈ names, IsPlain name) (files : List (FileName × FileNode))
    : ∃ later,
        names.foldl (fun tree name => (discard tree (cache.pathOf name)).2) (tree.fill place files)
          = tree.fill place later
        ∧ Trims (· ∈ names) files later := by
  induction names generalizing files with
  | nil => exact ⟨files, rfl, .refl _ files⟩
  | cons name names ih =>
      obtain ⟨first, rest⟩ := List.forall_mem_cons.mp plain
      obtain ⟨middle, discarded, trims⟩ := discard_trims bare first files
      obtain ⟨later, swept, trimsLater⟩ := ih rest middle
      refine ⟨later, by rw [List.foldl_cons, discarded, swept], ?_⟩
      refine (trims.mono ?_).trans (trimsLater.mono ?_)
      · rintro _ rfl
        exact List.mem_cons_self
      · intro other member
        exact List.mem_cons_of_mem name member

/-- The entries in use take no more bytes when some entries are gone. -/
theorem Trims.usedBytes_le (trims : Trims lost files later) (policy : Policy) (now : Nat)
    : usedBytes policy now later ≤ usedBytes policy now files := by
  rw [usedBytes_eq, usedBytes_eq]
  exact ((trims.sublist.filterMap _).map _).sum_le_sum (by simp)

end Folder

-----------------------------------------------------------------------------------------
-- Files that nothing is given for
-----------------------------------------------------------------------------------------

section Dead

variable {cache : Cache} {tree : FileTree} {place : Place} {name : FileName} {node : FileNode}
  {root : Path} {files later : List (FileName × FileNode)} {policy : Policy} {now modified : Nat}
  {key : String}

/-- No look-up is given anything for a file in a folder. -/
def Dead (α : Type) [Storable α] (policy : Policy) (now : Nat) (root : Path)
    (files : List (FileName × FileNode)) (name : FileName) : Prop :=
  ∀ (key : String) (modified : Nat) (value : α),
    name = fileNameOf (fingerprintOf key)
    → ¬ Gives policy now key modified (storedIn root files name) value

variable {α : Type} [Storable α] {value : α}

/-- When only dead files are gone, each look-up is given what it was given before. -/
theorem Trims.gives_iff (trims : Trims (Dead α policy now root files) files later)
    (key : String) (modified : Nat) (value : α)
    : Gives policy now key modified (storedIn root later (fileNameOf (fingerprintOf key))) value
      ↔ Gives policy now key modified
          (storedIn root files (fileNameOf (fingerprintOf key))) value := by
  rcases trims.lookup_eq (fileNameOf (fingerprintOf key)) with same | ⟨gone, dead⟩
  · rw [storedIn, same, ← storedIn]
  · have missing : storedIn root later (fileNameOf (fingerprintOf key)) = .missing := by
      rw [storedIn, gone]
      cases fileRefusal? root (fileNameOf (fingerprintOf key)) <;> rfl
    rw [missing]
    constructor
    · rintro ⟨contents, entry, held, _⟩
      cases held
    · intro given
      exact absurd given (dead key modified value rfl)

/-- The header that a collection judges a file by tells nothing against an entry that a look-up can
use, so what it discards is dead.
-/
theorem dead_of_judge (distinct : Index.Unique files) (member : (name, node) ∈ files)
    (discarded : judge policy now name node = .discarded)
    : Dead α policy now root files name := by
  rintro key modified value rfl ⟨contents, entry, held, decoded, answers, -⟩
  obtain ⟨small, time, present⟩ := storedIn_eq_bytes held
  rw [FileNode.lookup_eq_find?] at present
  obtain rfl := Option.some.inj (present.symm.trans (distinct.mem_iff.mp member))
  have own : (fingerprintOf key != entry.header.fingerprint) = false := by
    simp [answers.fingerprint]
  simp only [judge, entryStem?_fileNameOf, judgeEntry, Nat.not_lt.mpr small, if_false,
    header_of_decode? decoded, Text.ofBytes?_toBytes, answers.current, own, answers.fresh,
    Bool.not_true, Bool.or_self, Bool.false_eq_true] at discarded
  cases discarded

/-- With room for all that is in use, a collection takes files only that give no value any more. -/
theorem dead_of_mem_collected (distinct : Index.Unique files)
    (room : usedBytes policy now files ≤ policy.budget)
    (member : name ∈ collected policy now files)
    : Dead α policy now root files name := by
  rcases List.mem_append.mp member with old | given
  · obtain ⟨node, member, discarded⟩ := mem_outOfUse.mp old
    exact dead_of_judge distinct member discarded
  · rw [evicted_of_le room] at given
    cases given

-----------------------------------------------------------------------------------------
-- Looking up and collecting
-----------------------------------------------------------------------------------------

/-- The entries of a folder have different names, of the kind that files in a folder can have. -/
structure IsListing (files : List (FileName × FileNode)) : Prop where
  distinct : Index.Unique files
  plain : ∀ file ∈ files, IsPlain file.1

theorem IsListing.trim {lost : FileName → Prop} (listing : IsListing files)
    (trims : Trims lost files later)
    : IsListing later :=
  ⟨(trims.sublist.map Prod.fst).nodup listing.distinct,
    fun file member => listing.plain file (trims.sublist.subset member)⟩

/-- What is done to a cache that may remove files, other than storing. -/
inductive Visit where
  | lookup (key : String) (modified : Nat)
  | collect
  deriving DecidableEq

/-- The tree after a visit at a time. -/
def Visit.perform (α : Type) [Storable α] (cache : Cache) (now : Nat) (tree : FileTree) :
    Visit → FileTree
  | .lookup key modified => (cache.lookup tree now key modified : Option α × FileTree).2
  | .collect => (cache.collect tree now).toOption.getD tree

/-- Looking a key up takes at most files out of the folder that give no value any more. -/
theorem lookup_trims (bare : LeadsTo tree cache.root place []) (files : List (FileName × FileNode))
    (now : Nat) (key : String) (modified : Nat)
    : ∃ later,
        (cache.lookup (tree.fill place files) now key modified : Option α × FileTree).2
          = tree.fill place later
        ∧ Trims (Dead α cache.policy now cache.root files) files later := by
  have plain := plain_fileNameOf key
  have outcome := lookedUp_lookup α cache (tree.fill place files) now key modified
  generalize (cache.lookup (tree.fill place files) now key modified : Option α × FileTree) = result
    at outcome ⊢
  cases outcome with
  | left | given => exact ⟨files, rfl, .refl _ files⟩
  | discarded useless =>
      obtain ⟨later, discarded, trims⟩ := discard_trims bare plain files
      refine ⟨later, discarded, trims.mono ?_⟩
      rintro _ rfl other time value alike
      rw [← stored_fill bare plain files]
      exact useless other time value (fileNameOf_injective alike).symm

/-- So does collecting, if there is room for all that is in use. -/
theorem collect_trims (bare : LeadsTo tree cache.root place []) (listing : IsListing files)
    (room : usedBytes cache.policy now files ≤ cache.policy.budget)
    : ∃ later,
        (cache.collect (tree.fill place files) now).toOption.getD (tree.fill place files)
          = tree.fill place later
        ∧ Trims (Dead α cache.policy now cache.root files) files later := by
  have opened := (bare.fill files).find?_eq
  rw [collect, FileTree.node?, opened]
  cases FileTree.refusal? cache.root with
  | some e => exact ⟨files, by cases e <;> rfl, .refl _ files⟩
  | none =>
      have plain : ∀ name ∈ collected cache.policy now files, IsPlain name := by
        intro name member
        obtain ⟨node, member, -⟩ := mem_of_mem_collected member
        exact listing.plain (name, node) member
      obtain ⟨later, swept, trims⟩ := sweep_trims bare plain files
      refine ⟨later, swept, trims.mono ?_⟩
      intro name member
      exact dead_of_mem_collected listing.distinct room member

/-- And so does each visit, by its kind. -/
theorem Visit.perform_trims (α : Type) [Storable α] (bare : LeadsTo tree cache.root place [])
    (listing : IsListing files) (visit : Visit)
    (room : visit = .collect → usedBytes cache.policy now files ≤ cache.policy.budget)
    : ∃ later,
        visit.perform α cache now (tree.fill place files) = tree.fill place later
        ∧ Trims (Dead α cache.policy now cache.root files) files later := by
  cases visit with
  | lookup key modified => exact lookup_trims bare files now key modified
  | collect => exact collect_trims bare listing (room rfl)

/-- At one time, neither looking up nor collecting changes what any later look-up gives, whatever
the folder of the cache holds, as long as the entries in use fit if there is a collection.
-/
theorem lookup_visits (opened : tree.find? true cache.root = .ok (place, .folder []))
    (listing : IsListing files) (visits : List Visit)
    (room : .collect ∈ visits → usedBytes cache.policy now files ≤ cache.policy.budget)
    (key : String) (modified : Nat)
    : (cache.lookup (visits.foldl (Visit.perform α cache now) (tree.fill place files)) now key
          modified : Option α × FileTree).1
      = (cache.lookup (tree.fill place files) now key modified : Option α × FileTree).1 := by
  obtain ⟨-, bare⟩ := FileTree.leadsTo_of_find? opened
  have plain := plain_fileNameOf key
  induction visits generalizing files with
  | nil => rfl
  | cons visit visits ih =>
      obtain ⟨later, performed, trims⟩ := visit.perform_trims α bare listing
        (fun collects => room (by rw [collects]; exact List.mem_cons_self))
      have roomLater : .collect ∈ visits
          → usedBytes cache.policy now later ≤ cache.policy.budget := by
        intro member
        exact (trims.usedBytes_le cache.policy now).trans
          (room (List.mem_cons_of_mem visit member))
      rw [List.foldl_cons, performed, ih (listing.trim trims) roomLater]
      apply Option.ext
      intro value
      rw [lookup_eq_some_iff, lookup_eq_some_iff, entryPath_eq, stored_fill bare plain,
        stored_fill bare plain]
      exact trims.gives_iff key modified value

/-- A stray file and a file with the bytes of an entry. -/
def sampleFiles (bytes : ByteArray) : List (FileName × FileNode) :=
  [(Text.toBytes "notes.txt", .file .empty 0),
    (fileNameOf (fingerprintOf "/a.js"), .file bytes 1000)]

/-- The stray file goes, and the entry is found as before. -/
theorem lookup_visits_sample
    : ∃ bytes,
        (entryFor 1000 "/a.js" 5 sampleFound).encode? = .ok bytes
        ∧ sampleTree.find? true sampleCache.root = .ok ([Text.toBytes "c"], .folder [])
        ∧ IsListing (sampleFiles bytes)
        ∧ usedBytes sampleCache.policy 2000 (sampleFiles bytes) ≤ sampleCache.policy.budget
        ∧ let filled := sampleTree.fill [Text.toBytes "c"] (sampleFiles bytes)
          let visits := [Visit.lookup "/a.js" 4, .collect]
          (sampleCache.lookup
              (visits.foldl (Visit.perform (List Discovery) sampleCache 2000) filled) 2000 "/a.js" 5
              : Option (List Discovery) × FileTree).1
            = some sampleFound := by
  have opened : sampleTree.find? true sampleCache.root
      = .ok ([Text.toBytes "c"], .folder []) := by cbv
  have bare := (FileTree.leadsTo_of_find? opened).2
  have plain := plain_fileNameOf "/a.js"
  have proper : Proper (entryFor 1000 "/a.js" 5 sampleFound) :=
    proper_entryFor (by decide) (by decide) (faithful_discoveries (by decide)) "/a.js"
  have encodes : (entryFor 1000 "/a.js" 5 sampleFound).encode?.toOption.isSome = true := by
    decide +kernel
  obtain ⟨bytes, written⟩ : ∃ bytes, (entryFor 1000 "/a.js" 5 sampleFound).encode? = .ok bytes := by
    cases written : (entryFor 1000 "/a.js" 5 sampleFound).encode? with
    | error e => rw [written] at encodes; cases encodes
    | ok bytes => exact ⟨bytes, rfl⟩
  have reachable : fileRefusal? sampleCache.root (fileNameOf (fingerprintOf "/a.js")) = none := by
    decide +kernel
  have held : IsFileOf sampleCache.root (entryFor 1000 "/a.js" 5 sampleFound)
      (fileNameOf (fingerprintOf "/a.js")) (.file bytes 1000) :=
    ⟨proper, rfl, reachable, bytes, written, rfl⟩
  have other : (fileNameOf (fingerprintOf "/a.js") == Text.toBytes "notes.txt") = false := by
    rw [beq_eq_false_iff_ne]
    intro same
    have ends := congrArg entryStem? same
    rw [entryStem?_fileNameOf] at ends
    cases ends
  have listing : IsListing (sampleFiles bytes) := by
    constructor
    · have apart : Text.toBytes "notes.txt" ≠ fileNameOf (fingerprintOf "/a.js") :=
        (beq_eq_false_iff_ne.mp other).symm
      simp [Index.Unique, sampleFiles, apart]
    · intro file member
      rcases List.mem_pair.mp member with rfl | rfl
      · exact ⟨by decide, by decide, by decide, by decide⟩
      · exact plain
  have room
      : usedBytes sampleCache.policy 2000 (sampleFiles bytes) ≤ sampleCache.policy.budget := by
    have stray : judge sampleCache.policy 2000 (Text.toBytes "notes.txt") (.file .empty 0)
        = .discarded := by decide
    obtain ⟨size, small, used⟩ := held.judge sampleCache.policy 2000
    have fresh : (entryFor 1000 "/a.js" 5 sampleFound).header.isExpired 2000
        sampleCache.policy.timeToLive = false := by decide
    rw [fresh] at used
    simp only [usedBytes, inUse, sampleFiles, List.filterMap_cons, stray, used]
    simpa using small.trans (by decide)
  refine ⟨bytes, written, opened, listing, room, ?_⟩
  refine (lookup_visits opened listing [.lookup "/a.js" 4, .collect] (fun _ => room) "/a.js"
    5).trans ?_
  rw [lookup_eq_some_iff, entryPath_eq, stored_fill bare plain]
  obtain ⟨_, ⟨⟩, decoded, _, small⟩ := held.decode
  refine ⟨bytes, _, ?_, decoded, ⟨proper.current, rfl, rfl, rfl, by decide⟩, rfl⟩
  simp [storedIn, reachable, sampleFiles, List.lookup, other, small]

end Dead

end EarlyBreak.Cache
