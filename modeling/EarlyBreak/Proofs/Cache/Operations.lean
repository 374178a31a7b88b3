import EarlyBreak.Proofs.Cache.Contents

/-! What the operations of a cache do to its folder, when the folder holds what the cache wrote.  A
look-up takes out at most the file that it looked at, a write puts in one file, and a collection
takes out files that are too old and, if there are too many bytes, some others.
-/

namespace EarlyBreak.Cache

open FileTree (LeadsTo OnlyFiles fileRefusal? refusal?)
open EarlyBreak.Path (IsPlain)

variable {α : Type} [Storable α] {cache : Cache} {tree : FileTree} {place : Place}
  {entry : Saved α} {written : List (Saved α)} {files : List (FileName × FileNode)}
  {name : FileName} {node : FileNode} {now : Nat} {key : String}

/-- The path of a cache leads to a folder, which is empty in this tree. -/
structure Serves (tree : FileTree) (place : Place) (cache : Cache) : Prop where
  bare : LeadsTo tree cache.root place []
  accepted : refusal? cache.root = none

theorem entryPath_eq (cache : Cache) (fingerprint : String)
    : cache.entryPath fingerprint = cache.pathOf (fileNameOf fingerprint) := rfl

/-- What is stored under a name in a folder with any entries. -/
def storedIn (root : Path) (files : List (FileName × FileNode)) (name : FileName) : Stored :=
  match fileRefusal? root name, files.lookup name with
  | some _, _ => .missing
  | none, none => .missing
  | none, some (.file contents _) =>
      if contents.size ≤ entryLimit then .bytes contents else .unfit
  | none, some _ => .unfit

/-- What is found under a name that a folder can have depends on the entries of the folder only. -/
theorem stored_fill (bare : LeadsTo tree cache.root place []) (plain : IsPlain name)
    (files : List (FileName × FileNode))
    : stored (tree.fill place files) (cache.pathOf name) = storedIn cache.root files name := by
  rw [stored, storedIn, pathOf, FileTree.ownNode?,
    (bare.fill files).find?_own plain (Or.inl rfl)]
  cases fileRefusal? cache.root name with
  | some e => rfl
  | none =>
      cases files.lookup name with
      | none => rfl
      | some node => cases node <;> rfl

theorem stored_of_absent (serves : Serves tree place cache) (plain : IsPlain name)
    (absent : files.lookup name = none)
    : stored (tree.fill place files) (cache.pathOf name) = .missing := by
  rw [stored_fill serves.bare plain, storedIn, absent]
  cases fileRefusal? cache.root name <;> rfl

/-- What is stored under the name of an entry decodes to it. -/
theorem stored_of_present (serves : Serves tree place cache)
    (held : IsFileOf cache.root entry name node) (present : files.lookup name = some node)
    : ∃ bytes,
        stored (tree.fill place files) (cache.pathOf name) = .bytes bytes
        ∧ Saved.decode? bytes = some entry := by
  obtain ⟨bytes, rfl, decoded, _, small⟩ := held.decode
  refine ⟨bytes, ?_, decoded⟩
  rw [stored_fill serves.bare held.plain, storedIn, held.reachable, present]
  exact if_pos small

/-- What is in a folder under a name, if anything, is a file that can be removed. -/
def Removable (root : Path) (files : List (FileName × FileNode)) (name : FileName) : Prop :=
  ∀ found,
    files.lookup name = some found → found.isFile = true ∧ fileRefusal? root name = none

theorem Removable.filter {root : Path} (removable : Removable root files name)
    (kept : FileName → Bool)
    : Removable root (files.filter (kept ·.1)) name := by
  intro found present
  rw [FileNode.lookup_filter] at present
  split at present
  case isTrue => exact removable found present
  case isFalse => cases present

/-- Discarding such a file takes it out of the folder. -/
theorem discard_removable (leads : LeadsTo tree cache.root place files) (plain : IsPlain name)
    (removable : Removable cache.root files name)
    : (discard tree (cache.pathOf name)).2
      = tree.fill place (files.filter (·.1 != name)) := by
  rw [discard, pathOf, leads.remove?_own plain]
  cases found : files.lookup name with
  | none =>
      rw [FileNode.filter_ne_of_lookup found, FileTree.fill_self leads]
      cases fileRefusal? cache.root name with
      | none => rfl
      | some e => cases e <;> rfl
  | some node =>
      obtain ⟨isFile, reachable⟩ := removable node found
      rw [reachable]
      cases node with
      | file contents modified => rfl
      | link | folder => cases isFile

/-- So does discarding several of them, by induction on their names: paths to the folder do not lead
through files, so they still lead to it.
-/
theorem sweep_removable (leads : LeadsTo tree cache.root place files) {names : List FileName}
    (plain : ∀ name ∈ names, IsPlain name)
    (removable : ∀ name ∈ names, Removable cache.root files name)
    : names.foldl (fun tree name => (discard tree (cache.pathOf name)).2) tree
      = tree.fill place (files.filter (!names.contains ·.1)) := by
  induction names generalizing tree files with
  | nil => simp [FileTree.fill_self leads]
  | cons name rest ih =>
      obtain ⟨first, others⟩ := List.forall_mem_cons.mp plain
      obtain ⟨firstToo, othersToo⟩ := List.forall_mem_cons.mp removable
      have further := leads.lose
        (FileNode.losesFiles_without fun found present => (firstToo found present).1)
      rw [List.foldl_cons, discard_removable leads first firstToo,
        ih further others fun other member => (othersToo other member).filter (· != name),
        FileTree.fill_fill leads, List.filter_filter]
      congr 2
      funext file
      rw [List.contains_cons, Bool.not_or, Bool.and_comm]
      rfl

/-- Every file of such a folder can be removed, as none is a folder itself. -/
theorem Holds.removable (holds : Holds cache.root written files) (name : FileName)
    : Removable cache.root files name := by
  intro found present
  obtain ⟨entry, _, held⟩ := holds.latest present
  obtain ⟨contents, modified, rfl⟩ := holds.onlyFiles.lookup present
  exact ⟨rfl, held.reachable⟩

/-- Discarding a file takes it out of the folder, and it alone. -/
theorem discard_fill (serves : Serves tree place cache) (holds : Holds cache.root written files)
    (plain : IsPlain name)
    : (discard (tree.fill place files) (cache.pathOf name)).2
      = tree.fill place (files.filter (·.1 != name)) := by
  rw [discard_removable (serves.bare.fill files) plain (holds.removable name),
    FileTree.fill_fill serves.bare]

/-- A key without a file has no value, and asking for it changes nothing. -/
theorem lookup_of_absent (serves : Serves tree place cache)
    (absent : files.lookup (fileNameOf (fingerprintOf key)) = none) (now modified : Nat)
    : (cache.lookup (tree.fill place files) now key modified : Option α × FileTree)
      = (none, tree.fill place files) := by
  have missing := stored_of_absent serves (plain_fileNameOf key) absent
  simp only [lookup, entryPath_eq, missing]

/-- What a look-up does to the file of an entry: it is given up when it is asked for and too old. -/
theorem lookup_of_present (serves : Serves tree place cache)
    (holds : Holds cache.root written files)
    (present : files.lookup (fileNameOf (fingerprintOf key)) = some node)
    (held : IsFileOf cache.root entry (fileNameOf (fingerprintOf key)) node) (now modified : Nat)
    : cache.lookup (tree.fill place files) now key modified
      = if entry.header.key = key ∧ entry.modified = modified then
          if entry.header.isExpired now cache.policy.timeToLive then
            (none, tree.fill place (files.filter (·.1 != fileNameOf (fingerprintOf key))))
          else (some entry.value, tree.fill place files)
        else (none, tree.fill place files) := by
  obtain ⟨bytes, stored, decoded⟩ := stored_of_present serves held present
  have fingerprint : entry.header.fingerprint = fingerprintOf key :=
    (fileNameOf_injective held.named).symm
  have dropped := discard_fill serves holds held.plain
  simp only [lookup, entryPath_eq, stored, decoded, held.proper.current, fingerprint,
    dropped]
  by_cases same : entry.header.key = key ∧ entry.modified = modified
  · simp [same]
  · rw [if_neg same]
    simp only [not_and_or] at same
    simp [same]

/-- An entry is written if it has bytes and its file can be replaced. -/
theorem write_succeeds {modified : Nat} {value : α}
    (encoded : (entryFor now key modified value).encode?.toOption.isSome = true)
    (replaced : ∀ bytes,
      (tree.replace (cache.entryPath (fingerprintOf key)) bytes now).1.toOption = some ())
    : (cache.write tree now key modified value).1.toOption = some () := by
  cases outcome : (entryFor now key modified value).encode? with
  | error e => rw [outcome] at encoded; cases encoded
  | ok bytes =>
      have done := replaced bytes
      have path : cache.entryPath (entryFor now key modified value).header.fingerprint
          = cache.entryPath (fingerprintOf key) := rfl
      rw [write, outcome]
      simp only [path]
      cases written : tree.replace (cache.entryPath (fingerprintOf key)) bytes now with
      | mk result after =>
          rw [written] at done
          cases result with
          | error e => cases done
          | ok => rfl

/-- What is written is the file of the new entry, or nothing. -/
theorem write_fill {modified : Nat} {value : α} (serves : Serves tree place cache)
    (holds : Holds cache.root written files) (proper : Proper (entryFor now key modified value))
    : (∃ e, cache.write (tree.fill place files) now key modified value
        = (.error e, tree.fill place files))
      ∨ ∃ node,
          IsFileOf cache.root (entryFor now key modified value)
            (fileNameOf (fingerprintOf key)) node
          ∧ cache.write (tree.fill place files) now key modified value
            = (.ok (), tree.fill place
                (FileNode.setEntry (fileNameOf (fingerprintOf key)) node files)) := by
  rw [write]
  cases encoded : (entryFor now key modified value).encode? with
  | error e => exact .inl ⟨_, rfl⟩
  | ok bytes =>
      have free :
          files.lookup (FileTree.temporaryName (fileNameOf (fingerprintOf key))) = none := by
        refine Option.eq_none_iff_forall_not_mem.mpr fun node found => ?_
        obtain ⟨entry, _, held⟩ := holds.latest found
        exact temporaryName_ne _ _ held.named
      have replaced := FileTree.replace_file serves.bare (plain_fileNameOf key) holds.onlyFiles
        free bytes now
      have path : cache.entryPath (entryFor now key modified value).header.fingerprint
          = cache.root.join ⟨fileNameOf (fingerprintOf key)⟩ := rfl
      simp only [path]
      rcases replaced with ⟨e, failed⟩ | ⟨reachable, done⟩
      · exact .inl ⟨.io e, by rw [failed]; rfl⟩
      · exact .inr ⟨.file bytes now, ⟨proper, rfl, reachable, bytes, encoded, rfl⟩,
          by rw [done]; rfl⟩

/-- What is stored is the file of the new entry, if it can be written and no collection is due. -/
theorem store_fill {modified : Nat} {value : α} (serves : Serves tree place cache)
    (holds : Holds cache.root written files) (proper : Proper (entryFor now key modified value))
    (succeeds : (cache.write (tree.fill place files) now key modified value).1.toOption = some ())
    (prompt : now - cache.collectedAt < cache.policy.interval)
    : ∃ node,
        IsFileOf cache.root (entryFor now key modified value) (fileNameOf (fingerprintOf key)) node
        ∧ cache.store (tree.fill place files) now key modified value
          = (.ok (), cache, tree.fill place
              (FileNode.setEntry (fileNameOf (fingerprintOf key)) node files)) := by
  rcases write_fill serves holds proper with ⟨e, failed⟩ | ⟨node, held, wrote⟩
  · rw [failed] at succeeds
    cases succeeds
  · exact ⟨node, held, by simp only [store, wrote, collectIfDue, prompt, if_true]⟩

/-- Only what could be evicted is evicted, by induction on the candidates. -/
theorem mem_of_mem_evicted {budget total : Nat} {candidates : List (FileName × Nat × Nat)}
    (member : name ∈ evicted budget total candidates)
    : name ∈ candidates.map (·.1) := by
  induction candidates generalizing total with
  | nil => cases member
  | cons candidate rest ih =>
      rw [evicted] at member
      split at member
      · cases member
      · rcases List.mem_cons.mp member with rfl | later
        · exact List.mem_cons_self
        · exact List.mem_cons_of_mem _ (ih later)

theorem evicted_of_le {budget total : Nat} (fits : total ≤ budget)
    (candidates : List (FileName × Nat × Nat))
    : evicted budget total candidates = [] := by
  cases candidates with
  | nil => rfl
  | cons candidate rest => rw [evicted, if_pos fits]

/-- The bytes of entries, each given by its name, the time when it was saved, and its size. -/
def totalSize (entries : List (FileName × Nat × Nat)) : Nat :=
  (entries.map fun used => used.2.2).sum

/-- The bytes in use are the sum of the sizes of the entries in use. -/
theorem usedBytes_eq (policy : Policy) (now : Nat) (files : List (FileName × FileNode))
    : usedBytes policy now files = totalSize (inUse policy now files) := by
  rw [usedBytes, totalSize, List.sum_eq_foldl, List.foldl_map]

/-- A name is out of use exactly if its file is judged to be discarded. -/
theorem mem_outOfUse {policy : Policy}
    : name ∈ outOfUse policy now files
      ↔ ∃ node, (name, node) ∈ files ∧ judge policy now name node = .discarded := by
  simp only [outOfUse, List.mem_filterMap, Prod.exists]
  constructor
  · rintro ⟨other, node, member, verdict⟩
    split at verdict
    case h_1 discarded =>
      obtain rfl := Option.some.inj verdict
      exact ⟨node, member, discarded⟩
    case h_2 => cases verdict
  · rintro ⟨node, member, discarded⟩
    exact ⟨name, node, member, by rw [discarded]⟩

/-- An entry is in use exactly if its file is judged to be kept. -/
theorem mem_inUse {policy : Policy} {savedAt size : Nat}
    : (name, savedAt, size) ∈ inUse policy now files
      ↔ ∃ node, (name, node) ∈ files ∧ judge policy now name node = .kept savedAt size := by
  simp only [inUse, List.mem_filterMap, Prod.exists]
  constructor
  · rintro ⟨other, node, member, verdict⟩
    split at verdict
    case h_1 kept =>
      cases verdict
      exact ⟨node, member, kept⟩
    case h_2 => cases verdict
  · rintro ⟨node, member, kept⟩
    exact ⟨name, node, member, by rw [kept]⟩

/-- A collection removes what it has judged to be out of use or has evicted. -/
theorem mem_of_mem_collected {policy : Policy} (member : name ∈ collected policy now files)
    : ∃ node, (name, node) ∈ files ∧ judge policy now name node ≠ .spared := by
  rcases List.mem_append.mp member with old | given
  · obtain ⟨node, member, discarded⟩ := mem_outOfUse.mp old
    exact ⟨node, member, by simp [discarded]⟩
  · obtain ⟨⟨_, savedAt, size⟩, candidate, rfl⟩ := List.mem_map.mp (mem_of_mem_evicted given)
    obtain ⟨node, filed, kept⟩ := mem_inUse.mp (List.mem_mergeSort.mp candidate)
    exact ⟨node, filed, by simp [kept]⟩

/-- An entry that is not too old is kept as long as there are not too many bytes. -/
theorem not_mem_collected {policy : Policy} {root : Path} (holds : Holds root written files)
    (present : files.lookup name = some node) (held : IsFileOf root entry name node)
    (fresh : entry.header.isExpired now policy.timeToLive = false)
    (room : usedBytes policy now files ≤ policy.budget)
    : name ∉ collected policy now files := by
  intro member
  rcases List.mem_append.mp member with old | given
  · obtain ⟨other, member, discarded⟩ := mem_outOfUse.mp old
    obtain rfl := Option.some.inj (present.symm.trans (holds.lookup_of_mem member))
    obtain ⟨size, _, verdict⟩ := held.judge policy now
    rw [verdict, fresh] at discarded
    cases discarded
  · rw [evicted_of_le room] at given
    cases given

/-- The files that a collection leaves. -/
def swept (policy : Policy) (now : Nat) (files : List (FileName × FileNode)) :
    List (FileName × FileNode) :=
  files.filter (!(collected policy now files).contains ·.1)

/-- An entry on its own stays until it is too old, if there may be as many bytes as it can have. -/
theorem swept_singleton {root : Path} {policy : Policy} (held : IsFileOf root entry name node)
    (fresh : entry.header.isExpired now policy.timeToLive = false)
    (ample : entryLimit ≤ policy.budget)
    : swept policy now [(name, node)] = [(name, node)] := by
  obtain ⟨size, small, verdict⟩ := held.judge policy now
  have room : usedBytes policy now [(name, node)] ≤ policy.budget := by
    simp only [usedBytes, inUse, List.filterMap_cons, verdict, fresh]
    simpa using Nat.le_trans small ample
  have holds : Holds root [entry] [(name, node)] := (Holds.empty root []).write held
  have spared := not_mem_collected holds (List.lookup_cons_self) held fresh room
  simp [swept, spared]

/-- A collection whose files can all be removed leaves the others. -/
theorem collect_removable (leads : LeadsTo tree cache.root place files)
    (accepted : refusal? cache.root = none)
    (plain : ∀ name ∈ collected cache.policy now files, IsPlain name)
    (removable : ∀ name ∈ collected cache.policy now files, Removable cache.root files name)
    : cache.collect tree now = .ok (tree.fill place (swept cache.policy now files)) := by
  have opened : tree.node? cache.root = .ok (.folder files) := by
    rw [FileTree.node?, leads.find?_eq, accepted]
    rfl
  rw [collect, opened]
  simp only [sweep_removable leads plain removable]
  rfl

/-- Collecting sweeps the files of the folder and nothing else in the tree. -/
theorem collect_fill (serves : Serves tree place cache) (holds : Holds cache.root written files)
    : cache.collect (tree.fill place files) now
      = .ok (tree.fill place (swept cache.policy now files)) := by
  have plain : ∀ name ∈ collected cache.policy now files, IsPlain name := by
    intro name member
    obtain ⟨node, member, -⟩ := mem_of_mem_collected member
    obtain ⟨entry, _, held⟩ := holds.latest_of_mem member
    exact held.plain
  rw [collect_removable (serves.bare.fill files) serves.accepted plain fun name _ =>
    holds.removable name, FileTree.fill_fill serves.bare]

/-- Opening the cache again is collecting. -/
theorem openAt_fill (serves : Serves tree place cache) (holds : Holds cache.root written files)
    (policy : Policy) (now : Nat)
    : openAt cache.root policy (tree.fill place files) now
      = (.ok ⟨cache.root, policy, now⟩, tree.fill place (swept policy now files)) := by
  have leads := serves.bare.fill files
  obtain ⟨outcome, made, accepted⟩ := leads.makeFolders_eq
  obtain rfl := accepted.mpr serves.accepted
  have again : Serves tree place ⟨cache.root, policy, now⟩ := ⟨serves.bare, serves.accepted⟩
  rw [openAt, made]
  simp only [leads.isFolder_iff.mpr serves.accepted, if_true, collect_fill again holds]
  rfl

end EarlyBreak.Cache
