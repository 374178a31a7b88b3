import EarlyBreak.Proofs.Cache.Operations

/-! Histories of a cache whose folder is its own.  Whatever is found was stored last for its key,
and is not too old; and what was stored is found until it is too old, overwritten, or given up for
room.
-/

namespace EarlyBreak.Cache

open FileTree (LeadsTo)

/-- A call of a cache. -/
inductive Call (α : Type) where
  | lookup (key : String) (modified : UInt64)
  | store (key : String) (modified : UInt64) (value : α)
  | collect
  /-- The cache is opened once more, as the next program does that uses its folder. -/
  | reopen

/-- What there is to remember of a call. -/
structure Moment (α : Type) where
  /-- The clock at the call. -/
  now : UInt64
  /-- The entry that was written. -/
  written : Option (Saved α)
  /-- Whether the call collected and found more bytes in use than there may be. -/
  overfull : Bool

/-- A cache and its tree, and what was called so far, the last call first. -/
structure Usage (α : Type) where
  cache : Cache
  tree : FileTree
  past : List (Moment α)

/-- Whether a collection would find more bytes in use than there may be. -/
def isOverfull (cache : Cache) (tree : FileTree) (now : Nat) : Bool :=
  match tree.node? cache.root with
  | .ok (.folder files) => decide (cache.policy.budget < usedBytes cache.policy now files)
  | _ => false

/-- Whether a collection is due. -/
def isDue (cache : Cache) (now : Nat) : Bool :=
  decide (cache.policy.interval ≤ now - cache.collectedAt)

/-- An entry is not too old as long as the time since it was saved is at most what is allowed. -/
theorem isExpired_eq_false {header : Header} {now timeToLive : Nat}
    : header.isExpired now timeToLive = false ↔ now - header.savedAt ≤ timeToLive := by
  simp [Header.isExpired]

variable {α : Type} [Storable α]

/-- The cache once it was called. -/
def Usage.call (usage : Usage α) (now : UInt64) : Call α → Usage α
  | .lookup key modified =>
      let found : Option α × FileTree :=
        usage.cache.lookup usage.tree now.toNat key modified.toNat
      ⟨usage.cache, found.2, ⟨now, none, false⟩ :: usage.past⟩
  | .store key modified value =>
      let written := usage.cache.write usage.tree now.toNat key modified.toNat value
      let overfull := usage.cache.isDue now.toNat && usage.cache.isOverfull written.2 now.toNat
      match usage.cache.store usage.tree now.toNat key modified.toNat value with
      | (.ok (), cache, tree) =>
          ⟨cache, tree,
            ⟨now, some (entryFor now.toNat key modified.toNat value), overfull⟩ :: usage.past⟩
      | (.error _, cache, tree) => ⟨cache, tree, ⟨now, none, false⟩ :: usage.past⟩
  | .collect =>
      ⟨usage.cache, (usage.cache.collect usage.tree now.toNat).toOption.getD usage.tree,
        ⟨now, none, usage.cache.isOverfull usage.tree now.toNat⟩ :: usage.past⟩
  | .reopen =>
      let overfull := usage.cache.isOverfull (usage.tree.makeFolders usage.cache.root).2 now.toNat
      match openAt usage.cache.root usage.cache.policy usage.tree now.toNat with
      | (.ok cache, tree) => ⟨cache, tree, ⟨now, none, overfull⟩ :: usage.past⟩
      | (.error _, tree) => ⟨usage.cache, tree, ⟨now, none, false⟩ :: usage.past⟩

/-- The cache once it was called several times, each time with the clock. -/
def Usage.run (usage : Usage α) (calls : List (UInt64 × Call α)) : Usage α :=
  calls.foldl (fun usage (now, call) => usage.call now call) usage

/-- The entries that were written, the last one first. -/
def entriesOf (past : List (Moment α)) : List (Saved α) := past.filterMap (·.written)

/-- The entry that was written last for a key. -/
def lastStored? (past : List (Moment α)) (key : String) : Option (Saved α) :=
  (entriesOf past).find? (·.header.key == key)

/-- Since an entry was written, it was never too old when the cache was called, nothing was written
with its fingerprint, and no collection found too many bytes.
-/
inductive Undisturbed (policy : Policy) (entry : Saved α) : List (Moment α) → Prop where
  | written {moment earlier}
      : moment.written = some entry
        → moment.overfull = false
        → Undisturbed policy entry (moment :: earlier)
  | later {moment past}
      : Undisturbed policy entry past
        → moment.now.toNat - entry.header.savedAt ≤ policy.timeToLive
        → (∀ other, moment.written = some other
            → other.header.fingerprint ≠ entry.header.fingerprint)
        → moment.overfull = false
        → Undisturbed policy entry (moment :: past)

variable {cache : Cache} {tree : FileTree} {place : Place} {usage : Usage α}
  {entry other : Saved α} {files : List (FileName × FileNode)} {name : FileName} {node : FileNode}
  {past : List (Moment α)} {now : UInt64} {root : Path} {policy : Policy}

-----------------------------------------------------------------------------------------
-- What a folder remembers
-----------------------------------------------------------------------------------------

/-- The file of an entry is in a folder. -/
def Has (root : Path) (files : List (FileName × FileNode)) (entry : Saved α) : Prop :=
  ∃ node,
    files.lookup (fileNameOf entry.header.fingerprint) = some node
    ∧ IsFileOf root entry (fileNameOf entry.header.fingerprint) node

/-- A file holds one entry. -/
theorem IsFileOf.unique (held : IsFileOf root entry name node)
    (also : IsFileOf root other name node)
    : entry = other := by
  obtain ⟨bytes, rfl, decoded, _⟩ := held.decode
  obtain ⟨_, same, decodedToo, _⟩ := also.decode
  obtain ⟨rfl, _⟩ := FileNode.file.inj same
  exact Option.some.inj (decoded.symm.trans decodedToo)

/-- The state after some calls of a cache: the folder has only what was written, and all of it
that nothing happened to.
-/
structure Usage.Tracks (usage : Usage α) (start : Cache) (tree : FileTree) (place : Place)
    (files : List (FileName × FileNode)) : Prop where
  cache : ∃ collectedAt, usage.cache = { start with collectedAt }
  filled : usage.tree = tree.fill place files
  holds : Holds start.root (entriesOf usage.past) files
  proper : ∀ entry ∈ entriesOf usage.past, Proper entry
  remembers : ∀ {entry : Saved α},
    Undisturbed start.policy entry usage.past → Has start.root files entry

/-- Some files of a folder are left, among them those of the entries that are not too old. -/
structure Leaves (α : Type) [Storable α] (root : Path) (timeToLive now : Nat)
    (files left : List (FileName × FileNode)) : Prop where
  picked : ∃ kept : FileName → Bool, left = files.filter (kept ·.1)
  young : ∀ {entry : Saved α},
    Has root files entry → now - entry.header.savedAt ≤ timeToLive → Has root left entry

section Left

variable {written : List (Saved α)} {now timeToLive : Nat} {key : String}

/-- An entry whose file is spared stays in the folder. -/
theorem Has.filter (has : Has root files entry) (kept : FileName → Bool)
    (spared : kept (fileNameOf entry.header.fingerprint) = true)
    : Has root (files.filter (kept ·.1)) entry := by
  obtain ⟨node, present, held⟩ := has
  exact ⟨node, by rw [FileNode.lookup_filter, if_pos spared, present], held⟩

theorem Leaves.refl (root : Path) (timeToLive now : Nat) (files : List (FileName × FileNode))
    : Leaves α root timeToLive now files files :=
  ⟨⟨fun _ => true, by simp⟩, fun has _ => has⟩

/-- A collection picks files by their names. -/
theorem swept_picked (policy : Policy) (now : Nat) (files : List (FileName × FileNode))
    : ∃ kept : FileName → Bool, swept policy now files = files.filter (kept ·.1) :=
  ⟨fun name => !(collected policy now files).contains name, rfl⟩

/-- A collection that finds room leaves what is not too old. -/
theorem leaves_swept (holds : Holds root written files)
    (room : usedBytes policy now files ≤ policy.budget)
    : Leaves α root policy.timeToLive now files (swept policy now files) where
  picked := swept_picked policy now files
  young := by
    intro entry has young
    have ⟨node, present, held⟩ := has
    have spared := not_mem_collected holds present held (isExpired_eq_false.mpr young) room
    exact has.filter (fun name => !(collected policy now files).contains name)
      (by simpa using spared)

/-- A look-up leaves what is not too old. -/
theorem leaves_lookup (serves : Serves tree place cache) (holds : Holds cache.root written files)
    (now : Nat) (key : String) (modified : Nat)
    : ∃ left,
        (cache.lookup (tree.fill place files) now key modified : Option α × FileTree).2
          = tree.fill place left
        ∧ Leaves α cache.root cache.policy.timeToLive now files left := by
  cases found : files.lookup (fileNameOf (fingerprintOf key)) with
  | none =>
      exact ⟨files, by rw [lookup_of_absent serves found], .refl _ _ _ _⟩
  | some node =>
      obtain ⟨entry, _, fingerprint, held⟩ := holds.latest_of_lookup found
      rw [lookup_of_present serves holds found held]
      split
      case isFalse => exact ⟨files, rfl, .refl _ _ _ _⟩
      case isTrue =>
        split
        case isFalse => exact ⟨files, rfl, .refl _ _ _ _⟩
        case isTrue old =>
          refine ⟨_, rfl, ⟨(· != fileNameOf (fingerprintOf key)), rfl⟩, ?_⟩
          intro other has young
          refine has.filter (· != fileNameOf (fingerprintOf key)) (bne_iff_ne.mpr fun same => ?_)
          obtain ⟨_, present, also⟩ := has
          rw [same] at present also
          obtain rfl := Option.some.inj (found.symm.trans present)
          obtain rfl := held.unique also
          rw [isExpired_eq_false.mpr young] at old
          cases old

end Left

/-- A folder is too full exactly if the files in use take more than the budget. -/
theorem isOverfull_fill (serves : Serves tree place cache) (files : List (FileName × FileNode))
    (now : Nat)
    : cache.isOverfull (tree.fill place files) now = false
      ↔ usedBytes cache.policy now files ≤ cache.policy.budget := by
  rw [isOverfull, FileTree.node?, (serves.bare.fill files).find?_eq, serves.accepted]
  simp [Except.map]

-----------------------------------------------------------------------------------------
-- One call
-----------------------------------------------------------------------------------------

namespace Usage.Tracks

variable {start : Cache} {left : List (FileName × FileNode)} {moment : Moment α}

/-- A call that writes nothing keeps track if it leaves what it should. -/
theorem goesOn {cache : Cache} (tracks : usage.Tracks start tree place files)
    (same : ∃ collectedAt, cache = { start with collectedAt })
    (picked : ∃ kept : FileName → Bool, left = files.filter (kept ·.1))
    (wrote : moment.written = none)
    (leaves : moment.overfull = false
      → Leaves α start.root start.policy.timeToLive moment.now.toNat files left)
    : Tracks ⟨cache, tree.fill place left, moment :: usage.past⟩ start tree place left := by
  have nothing : entriesOf (moment :: usage.past) = entriesOf usage.past := by
    simp [entriesOf, wrote]
  refine ⟨same, rfl, ?_, ?_, ?_⟩
  · obtain ⟨kept, rfl⟩ := picked
    rw [nothing]
    exact tracks.holds.filter kept
  · rw [nothing]
    exact tracks.proper
  · intro entry undisturbed
    cases undisturbed with
    | written written => rw [wrote] at written; cases written
    | later before young _ room => exact (leaves room).young (tracks.remembers before) young

/-- A call that writes an entry keeps track if what it leaves is right. -/
theorem writes {cache : Cache} (tracks : usage.Tracks start tree place files)
    (same : ∃ collectedAt, cache = { start with collectedAt })
    (held : IsFileOf start.root entry (fileNameOf entry.header.fingerprint) node)
    (wrote : moment.written = some entry)
    (saved : entry.header.savedAt = moment.now.toNat)
    (picked : ∃ kept : FileName → Bool, left
      = (FileNode.setEntry (fileNameOf entry.header.fingerprint) node files).filter (kept ·.1))
    (leaves : moment.overfull = false
      → Leaves α start.root start.policy.timeToLive moment.now.toNat
          (FileNode.setEntry (fileNameOf entry.header.fingerprint) node files) left)
    : Tracks ⟨cache, tree.fill place left, moment :: usage.past⟩ start tree place left := by
  have more : entriesOf (moment :: usage.past) = entry :: entriesOf usage.past := by
    simp [entriesOf, wrote]
  refine ⟨same, rfl, ?_, ?_, ?_⟩
  · obtain ⟨kept, rfl⟩ := picked
    rw [more]
    exact (tracks.holds.write held).filter kept
  · rw [more]
    intro other member
    rcases List.mem_cons.mp member with rfl | before
    · exact held.proper
    · exact tracks.proper other before
  · intro other undisturbed
    cases undisturbed with
    | written written room =>
        obtain rfl := Option.some.inj (wrote.symm.trans written)
        have young : moment.now.toNat - entry.header.savedAt ≤ start.policy.timeToLive := by
          rw [saved, Nat.sub_self]
          exact Nat.zero_le _
        refine (leaves room).young ⟨node, ?_, held⟩ young
        rw [FileNode.lookup_setEntry, if_pos rfl]
    | later before young apart room =>
        obtain ⟨old, present, still⟩ := tracks.remembers before
        refine (leaves room).young ⟨old, ?_, still⟩ young
        have different := apart entry wrote
        rw [FileNode.lookup_setEntry, if_neg fun same => different (fileNameOf_injective same).symm,
          present]

/-- Each call is tracked, by what the operation does to the folder. -/
theorem call (serves : Serves tree place start) (tracks : usage.Tracks start tree place files)
    (now : UInt64) (call : Call α)
    (faithful : ∀ key modified value, call = .store key modified value → Faithful value)
    : ∃ files', (usage.call now call).Tracks start tree place files' := by
  obtain ⟨cache, current, past⟩ := usage
  obtain ⟨collectedAt, rfl⟩ : ∃ collectedAt, cache = { start with collectedAt } := tracks.cache
  obtain rfl : current = tree.fill place files := tracks.filled
  have serves : Serves tree place { start with collectedAt } := ⟨serves.bare, serves.accepted⟩
  have holds : Holds start.root (entriesOf past) files := tracks.holds
  cases call with
  | lookup key modified =>
      obtain ⟨left, same, leaves⟩ := leaves_lookup serves holds now.toNat key modified.toNat
      refine ⟨left, ?_⟩
      simp only [Usage.call, same]
      exact tracks.goesOn ⟨collectedAt, rfl⟩ leaves.picked rfl fun _ => leaves
  | collect =>
      refine ⟨swept start.policy now.toNat files, ?_⟩
      simp only [Usage.call, collect_fill serves holds]
      exact tracks.goesOn ⟨collectedAt, rfl⟩ (swept_picked _ _ _) rfl fun room =>
        leaves_swept holds ((isOverfull_fill serves files now.toNat).mp room)
  | reopen =>
      refine ⟨swept start.policy now.toNat files, ?_⟩
      obtain ⟨outcome, made, _⟩ := (serves.bare.fill files).makeFolders_eq
      simp only [Usage.call, openAt_fill serves holds, made]
      exact tracks.goesOn ⟨now.toNat, rfl⟩ (swept_picked _ _ _) rfl fun room =>
        leaves_swept holds ((isOverfull_fill serves files now.toNat).mp room)
  | store key modified value =>
      have proper : Proper (entryFor now.toNat key modified.toNat value) :=
        proper_entryFor now.toNat_lt modified.toNat_lt (faithful key modified value rfl) key
      rcases write_fill serves holds proper with ⟨e, failed⟩ | ⟨node, held, wrote⟩
      · refine ⟨files, ?_⟩
        simp only [Usage.call, store, failed]
        exact tracks.goesOn ⟨collectedAt, rfl⟩ ⟨fun _ => true, by simp⟩ rfl fun _ => .refl _ _ _ _
      · have filed := holds.write held
        by_cases wait : now.toNat - collectedAt < start.policy.interval
        · refine ⟨FileNode.setEntry (fileNameOf (fingerprintOf key)) node files, ?_⟩
          simp only [Usage.call, store, wrote, collectIfDue, wait, if_true]
          exact tracks.writes ⟨collectedAt, rfl⟩ held rfl rfl ⟨fun _ => true, by simp; rfl⟩
            fun _ => .refl _ _ _ _
        · refine ⟨swept start.policy now.toNat
            (FileNode.setEntry (fileNameOf (fingerprintOf key)) node files), ?_⟩
          simp only [Usage.call, store, wrote, collectIfDue, wait, if_false,
            collect_fill serves filed]
          refine tracks.writes ⟨now.toNat, rfl⟩ held rfl rfl (swept_picked _ _ _) fun room => ?_
          have due : isDue { start with collectedAt } now.toNat = true :=
            decide_eq_true (Nat.not_lt.mp wait)
          simp only [due, Bool.true_and] at room
          exact leaves_swept filed ((isOverfull_fill serves _ now.toNat).mp room)

/-- A run of calls is tracked, by induction on the calls. -/
theorem run (serves : Serves tree place start) (tracks : usage.Tracks start tree place files)
    (calls : List (UInt64 × Call α))
    (faithful : ∀ now key modified value, (now, .store key modified value) ∈ calls → Faithful value)
    : ∃ files', (usage.run calls).Tracks start tree place files' := by
  induction calls generalizing usage files with
  | nil => exact ⟨files, tracks⟩
  | cons first rest ih =>
      obtain ⟨now, call⟩ := first
      obtain ⟨files', next⟩ := tracks.call serves now call fun key modified value same =>
        faithful now key modified value (by rw [same]; exact List.mem_cons_self)
      exact ih next fun now key modified value member =>
        faithful now key modified value (List.mem_cons_of_mem _ member)

end Usage.Tracks

/-- A cache whose folder has nothing in it keeps track of no calls. -/
theorem Serves.tracks_nil (serves : Serves tree place cache)
    : (⟨cache, tree, []⟩ : Usage α).Tracks cache tree place [] :=
  ⟨⟨cache.collectedAt, rfl⟩, (FileTree.fill_self serves.bare).symm, .empty _ _, nofun, nofun⟩

/-- A proper entry is the one that is written for its key, its times and its value. -/
theorem Proper.eq_entryFor (proper : Proper entry)
    : entry = entryFor entry.header.savedAt entry.header.key entry.modified entry.value := by
  obtain ⟨⟨schema, version, savedAt, key, fingerprint⟩, modified, value⟩ := entry
  obtain ⟨rfl, rfl⟩ : schema = schemaVersion ∧ version = programVersion := by
    simpa [Header.isCurrent] using proper.current
  obtain rfl : fingerprint = fingerprintOf key := proper.fingerprint
  rfl

/-- The latest entry for a fingerprint is the latest one for its key. -/
theorem lastStored?_of_latest? (proper : ∀ entry ∈ entriesOf past, Proper entry)
    (latest : latest? (entriesOf past) entry.header.fingerprint = some entry)
    : lastStored? past entry.header.key = some entry := by
  obtain ⟨_, before, after, same, others⟩ := List.find?_eq_some_iff_append.mp latest
  refine List.find?_eq_some_iff_append.mpr ⟨by simp, before, after, same, ?_⟩
  intro other member
  have apart := others other member
  have sound (saved : Saved α) (member : saved ∈ before ++ entry :: after) :=
    (proper saved (same ▸ member)).fingerprint
  have mine := sound entry (by simp)
  have its := sound other (List.mem_append_left _ member)
  simp only [Bool.not_eq_true', beq_eq_false_iff_ne] at apart ⊢
  intro sameKey
  exact apart (by rw [its, mine, sameKey])

/-- What is found was stored last for its key, at its time, and is not too old. -/
theorem Usage.Tracks.of_lookup_eq_some {start : Cache} {key : String} {modified now : Nat}
    {value : α} (serves : Serves tree place start) (tracks : usage.Tracks start tree place files)
    (found : (usage.cache.lookup usage.tree now key modified).1 = some value)
    : ∃ entry,
        lastStored? usage.past key = some entry
        ∧ entry.header.key = key ∧ entry.modified = modified ∧ entry.value = value
        ∧ Proper entry ∧ now - entry.header.savedAt ≤ start.policy.timeToLive := by
  obtain ⟨current, filled, past⟩ := usage
  obtain ⟨collectedAt, rfl⟩ : ∃ collectedAt, current = { start with collectedAt } := tracks.cache
  obtain rfl : filled = tree.fill place files := tracks.filled
  have serves : Serves tree place { start with collectedAt } := ⟨serves.bare, serves.accepted⟩
  have holds : Holds start.root (entriesOf past) files := tracks.holds
  cases present : files.lookup (fileNameOf (fingerprintOf key)) with
  | none =>
      rw [lookup_of_absent serves present] at found
      cases found
  | some node =>
      obtain ⟨entry, latest, same, held⟩ := holds.latest_of_lookup present
      rw [lookup_of_present serves holds present held] at found
      split at found
      case isFalse => cases found
      case isTrue asked =>
        obtain ⟨rfl, time⟩ := asked
        split at found
        case isTrue => cases found
        case isFalse young =>
          rw [← same] at latest
          exact ⟨entry, lastStored?_of_latest? tracks.proper latest, rfl, time,
            Option.some.inj found, held.proper, isExpired_eq_false.mp (by simpa using young)⟩

/-- What a folder has is found until it is too old. -/
theorem Usage.Tracks.lookup_eq_some {start : Cache} {now : Nat}
    (serves : Serves tree place start) (tracks : usage.Tracks start tree place files)
    (has : Has start.root files entry)
    (young : now - entry.header.savedAt ≤ start.policy.timeToLive)
    : (usage.cache.lookup usage.tree now entry.header.key entry.modified).1
      = some entry.value := by
  obtain ⟨current, filled, past⟩ := usage
  obtain ⟨collectedAt, rfl⟩ : ∃ collectedAt, current = { start with collectedAt } := tracks.cache
  obtain rfl : filled = tree.fill place files := tracks.filled
  have serves : Serves tree place { start with collectedAt } := ⟨serves.bare, serves.accepted⟩
  obtain ⟨node, present, held⟩ := has
  rw [held.proper.fingerprint] at present held
  rw [lookup_of_present serves tracks.holds present held, if_pos ⟨rfl, rfl⟩,
    if_neg (by simp [isExpired_eq_false.mpr young])]

/-- Over all calls of a cache whose folder is its own: what is found was stored last for its key and
time and is not too old, and what was stored and not disturbed since is found.
-/
theorem lookup_run {cache : Cache} {tree : FileTree}
    (opened : tree.node? cache.root = .ok (.folder [])) (calls : List (UInt64 × Call α))
    (faithful : ∀ now key modified value, (now, .store key modified value) ∈ calls → Faithful value)
    (now : UInt64) (key : String) (modified : UInt64)
    : let usage := Usage.run ⟨cache, tree, []⟩ calls
      let found : Option α :=
        (usage.cache.lookup usage.tree now.toNat key modified.toNat).1
      (∀ value,
        found = some value
        → ∃ savedAt,
            lastStored? usage.past key = some (entryFor savedAt key modified.toNat value)
            ∧ now.toNat - savedAt ≤ cache.policy.timeToLive)
      ∧ ∀ savedAt value,
          Undisturbed cache.policy (entryFor savedAt key modified.toNat value) usage.past
          → now.toNat - savedAt ≤ cache.policy.timeToLive
          → found = some value := by
  obtain ⟨accepted, place, bare⟩ := FileTree.leadsTo_of_node? opened
  have serves : Serves tree place cache := ⟨bare, accepted⟩
  obtain ⟨files, tracks⟩ := Usage.Tracks.run serves serves.tracks_nil calls faithful
  constructor
  · intro value found
    obtain ⟨entry, last, rfl, time, rfl, proper, young⟩ := tracks.of_lookup_eq_some serves found
    exact ⟨entry.header.savedAt, by rw [last, ← time, ← proper.eq_entryFor], young⟩
  · intro savedAt value undisturbed young
    have answer := tracks.lookup_eq_some serves (tracks.remembers undisturbed) young
    exact answer

/-- A cache at `/c` in a tree with nothing but that folder. -/
def sampleTree : FileTree := ⟨.folder [(Text.toBytes "c", .folder [])], []⟩

def sampleCache : Cache := ⟨Path.ofString "/c", {}, 0⟩

def sampleFound : List Discovery :=
  [⟨"a.ts", Path.ofString "/a.ts", ⟨Path.ofString "/a.js", "a.js.map", 5⟩⟩]

/-- The look-up for another time leaves the entry alone. -/
def sampleCalls : List (UInt64 × Call (List Discovery)) :=
  [(1000, .store "/a.js" 5 sampleFound), (2000, .lookup "/a.js" 4)]

theorem fingerprint_sample
    : fingerprintOf "/a.js"
      = "9a23ff0d3b56f0dee56e6362390b5346c1abe1a4420be1f82840698ddc477697" := by
  decide +kernel

theorem write_sample
    : (sampleCache.write sampleTree 1000 "/a.js" 5 sampleFound).1.toOption = some () := by
  have replaced (bytes : ByteArray) : (sampleTree.replace (sampleCache.entryPath
      "9a23ff0d3b56f0dee56e6362390b5346c1abe1a4420be1f82840698ddc477697") bytes
        (1000 : Nat)).1.toOption = some () := by cbv
  rw [← fingerprint_sample] at replaced
  exact write_succeeds (by decide +kernel) replaced

theorem past_sample
    : (Usage.run ⟨sampleCache, sampleTree, []⟩ sampleCalls).past
      = [⟨2000, none, false⟩, ⟨1000, some (entryFor 1000 "/a.js" 5 sampleFound), false⟩] := by
  have early : 1000 - sampleCache.collectedAt < sampleCache.policy.interval := by decide
  have succeeds := write_sample
  cases wrote : sampleCache.write sampleTree 1000 "/a.js" 5 sampleFound with
  | mk outcome tree =>
      rw [wrote] at succeeds
      cases outcome with
      | error e => cases succeeds
      | ok =>
          simp [Usage.run, sampleCalls, Usage.call, store, wrote, collectIfDue, isDue, early,
            Nat.not_le.mpr early]

theorem lookup_run_sample
    : sampleTree.node? sampleCache.root = .ok (.folder [])
      ∧ (∀ now key modified value,
          (now, .store key modified value) ∈ sampleCalls → Faithful value)
      ∧ let usage := Usage.run ⟨sampleCache, sampleTree, []⟩ sampleCalls
        (usage.cache.lookup usage.tree 3000 "/a.js" 5).1 = some sampleFound := by
  have opened : sampleTree.node? sampleCache.root = .ok (.folder []) := by cbv
  have faithful : ∀ now key modified value,
      (now, .store key modified value) ∈ sampleCalls → Faithful value := by
    intro now key modified value member
    obtain ⟨_, _, _, rfl⟩ :
        now = 1000 ∧ key = "/a.js" ∧ modified = 5 ∧ value = sampleFound := by
      simpa [sampleCalls] using member
    exact faithful_discoveries (by decide)
  have undisturbed : Undisturbed sampleCache.policy (entryFor 1000 "/a.js" 5 sampleFound)
      (Usage.run ⟨sampleCache, sampleTree, []⟩ sampleCalls).past := by
    rw [past_sample]
    exact .later (.written rfl rfl) (by decide) (by rintro _ ⟨⟩) rfl
  exact ⟨opened, faithful,
    (lookup_run opened sampleCalls faithful 3000 "/a.js" 5).2 1000 sampleFound undisturbed
      (by decide)⟩

end EarlyBreak.Cache
