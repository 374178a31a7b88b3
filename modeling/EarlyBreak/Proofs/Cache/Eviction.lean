import EarlyBreak.Proofs.Cache.Sparing

/-! What a collection evicts when the entries in use do not fit.  It gives up the oldest ones, and
none that could have stayed with those that do.
-/

namespace EarlyBreak.Cache

open FileTree (LeadsTo fileRefusal?)
open EarlyBreak.Path (IsPlain)

variable {cache : Cache} {tree : FileTree} {place : Place} {policy : Policy} {now : Nat}
  {name : FileName} {node : FileNode} {files : List (FileName × FileNode)}
  {gone kept entries : List (FileName × Nat × Nat)} {savedAt size : Nat}

/-- From the front of some entries as many are evicted as it takes for the others to fit, and the
last of these would not fit with the others.
-/
theorem exists_evicted (budget : Nat) (entries : List (FileName × Nat × Nat))
    : ∃ gone kept,
        entries = gone ++ kept
        ∧ evicted budget (totalSize entries) entries = gone.map Prod.fst
        ∧ totalSize kept ≤ budget
        ∧ ∀ last, gone.getLast? = some last → budget < totalSize kept + last.2.2 := by
  induction entries with
  | nil => exact ⟨[], [], rfl, rfl, Nat.zero_le budget, nofun⟩
  | cons entry rest ih =>
      have total : totalSize (entry :: rest) = entry.2.2 + totalSize rest := List.sum_cons
      by_cases fits : totalSize (entry :: rest) ≤ budget
      · refine ⟨[], entry :: rest, rfl, ?_, fits, nofun⟩
        rw [evicted_of_le fits, List.map_nil]
      · obtain ⟨gone, kept, rfl, names, fit, needed⟩ := ih
        refine ⟨entry :: gone, kept, rfl, ?_, fit, ?_⟩
        · rw [evicted, if_neg fits, total, Nat.add_sub_cancel_left, names, List.map_cons]
        · intro last isLast
          cases gone with
          | nil =>
              obtain rfl : entry = last := Option.some.inj isLast
              simp only [List.nil_append] at total fits
              omega
          | cons first more => exact needed last (by rwa [List.getLast?_cons_cons] at isLast)

theorem byAge_perm (entries : List (FileName × Nat × Nat)) : (byAge entries).Perm entries :=
  List.mergeSort_perm _ _

/-- Of two entries in use the one saved earlier comes first. -/
theorem byAge_sorted (entries : List (FileName × Nat × Nat))
    : (byAge entries).Pairwise (fun older newer => older.2.1 ≤ newer.2.1) := by
  have sorted
      : (byAge entries).Pairwise fun older newer => decide (older.2.1 ≤ newer.2.1) = true :=
    List.pairwise_mergeSort (by simp only [decide_eq_true_eq]; omega)
      (by simp only [Bool.or_eq_true, decide_eq_true_eq]; omega) entries
  exact sorted.imp of_decide_eq_true

theorem totalSize_perm (perm : entries.Perm kept) : totalSize entries = totalSize kept :=
  (perm.map _).sum_eq

/-- No entry is in use twice, as no name comes twice in a folder. -/
theorem nodup_inUse (distinct : Index.Unique files)
    : ((inUse policy now files).map Prod.fst).Nodup := by
  have apart : files.Pairwise fun one other => one.1 ≠ other.1 := List.pairwise_map.mp distinct
  refine List.pairwise_map.mpr (apart.filterMap _ ?_)
  rintro ⟨one, node⟩ ⟨other, otherNode⟩ different used isUsed usedToo isUsedToo
  simp only at different isUsed isUsedToo
  split at isUsed
  case h_1 =>
    split at isUsedToo
    case h_1 =>
      cases isUsed
      cases isUsedToo
      exact different
    case h_2 => cases isUsedToo
  case h_2 => cases isUsed

/-- Which files are in use does not depend on what else is in the folder. -/
theorem inUse_filter (policy : Policy) (now : Nat) (files : List (FileName × FileNode))
    (kept : FileName → Bool)
    : inUse policy now (files.filter (kept ·.1)) = (inUse policy now files).filter (kept ·.1) := by
  induction files with
  | nil => rfl
  | cons file files ih =>
      obtain ⟨name, node⟩ := file
      simp only [inUse, List.filter_cons, List.filterMap_cons] at ih ⊢
      cases keeps : kept name <;> cases judged : judge policy now name node <;>
        simp [keeps, judged, ih]

/-- Only files are judged. -/
theorem isFile_of_judge (judged : judge policy now name node ≠ .spared)
    : ∃ contents modified, node = .file contents modified := by
  cases node with
  | file contents modified => exact ⟨contents, modified, rfl⟩
  | link | folder => exact absurd rfl judged

/-- A file with the ending of entries is out of use, or it is an entry in use with the size of the
file.
-/
theorem judge_file {contents : ByteArray} {modified : Int}
    (named : (entryStem? name).isSome = true)
    : judge policy now name (.file contents modified) = .discarded
      ∨ ∃ savedAt,
          judge policy now name (.file contents modified) = .kept savedAt contents.size := by
  obtain ⟨stem, named⟩ := Option.isSome_iff_exists.mp named
  have judged : judge policy now name (.file contents modified)
      = judgeEntry policy now stem contents := by
    simp only [judge, named]
  rw [judged, judgeEntry]
  split
  case isTrue => exact Or.inl rfl
  case isFalse =>
    split
    case h_1 => exact Or.inl rfl
    case h_2 header _ =>
      exact (ite_eq_or_eq _ _ _).imp_right fun kept => ⟨header.savedAt, kept⟩

/-- The names that a collection evicts are those of the oldest entries in use. -/
theorem exists_collected (policy : Policy) (now : Nat) (files : List (FileName × FileNode))
    : ∃ gone kept,
        (gone ++ kept).Perm (inUse policy now files)
        ∧ collected policy now files = outOfUse policy now files ++ gone.map Prod.fst
        ∧ (∀ entry ∈ gone, ∀ other ∈ kept, entry.2.1 ≤ other.2.1)
        ∧ totalSize kept ≤ policy.budget
        ∧ ∀ last, gone.getLast? = some last → policy.budget < totalSize kept + last.2.2 := by
  obtain ⟨gone, kept, cut, names, fit, needed⟩ :=
    exists_evicted policy.budget (byAge (inUse policy now files))
  have perm := byAge_perm (inUse policy now files)
  have sorted := byAge_sorted (inUse policy now files)
  rw [cut, List.pairwise_append] at sorted
  refine ⟨gone, kept, cut ▸ perm, ?_, sorted.2.2, fit, needed⟩
  rw [collected, usedBytes_eq, ← totalSize_perm perm, names]

/-- No name is both in use and out of use. -/
theorem not_mem_outOfUse (distinct : Index.Unique files)
    (used : (name, savedAt, size) ∈ inUse policy now files)
    : name ∉ outOfUse policy now files := by
  intro unused
  obtain ⟨node, filed, kept⟩ := mem_inUse.mp used
  obtain ⟨other, filedToo, discarded⟩ := mem_outOfUse.mp unused
  obtain rfl : node = other :=
    Option.some.inj ((distinct.mem_iff.mp filed).symm.trans (distinct.mem_iff.mp filedToo))
  rw [kept] at discarded
  cases discarded

/-- What is left in use is what is not evicted. -/
theorem inUse_swept (distinct : Index.Unique files)
    (perm : (gone ++ kept).Perm (inUse policy now files))
    (names : collected policy now files = outOfUse policy now files ++ gone.map Prod.fst)
    : (inUse policy now (swept policy now files)).Perm kept := by
  have apart : ((gone ++ kept).map Prod.fst).Nodup :=
    (perm.map Prod.fst).nodup_iff.mpr (nodup_inUse distinct)
  rw [List.map_append, List.nodup_append'] at apart
  have lost : gone.filter (fun used => !(collected policy now files).contains used.1) = [] := by
    refine List.filter_eq_nil_iff.mpr fun used member => ?_
    have named : used.1 ∈ collected policy now files :=
      names ▸ List.mem_append_right _ (List.mem_map_of_mem member)
    simp [named]
  have stays
      : kept.filter (fun used => !(collected policy now files).contains used.1) = kept := by
    refine List.filter_eq_self.mpr fun used member => ?_
    have unnamed : used.1 ∉ collected policy now files := by
      rw [names, List.mem_append, not_or]
      exact ⟨not_mem_outOfUse distinct (perm.subset (List.mem_append_right gone member)),
        fun evicted => apart.2.2 evicted (List.mem_map_of_mem member)⟩
    simp [unnamed]
  have left := perm.filter (fun used => !(collected policy now files).contains used.1)
  rw [List.filter_append, lost, stays, List.nil_append] at left
  rw [swept, inUse_filter policy now files fun name => !(collected policy now files).contains name]
  exact left.symm

/-- All names that a collection removes are those of files. -/
theorem isFile_of_mem_collected (distinct : Index.Unique files)
    (member : name ∈ collected policy now files)
    : ∃ contents modified,
        (name, .file contents modified) ∈ files
        ∧ files.lookup name = some (.file contents modified) := by
  obtain ⟨node, filed, judged⟩ := mem_of_mem_collected member
  obtain ⟨contents, modified, rfl⟩ := isFile_of_judge judged
  exact ⟨contents, modified, filed, by rw [FileNode.lookup_eq_find?, distinct.mem_iff.mp filed]⟩

/-- A folder whose files can be removed is left by a collection as it should be. -/
theorem collect_deletable (opened : tree.find? true cache.root = .ok (place, .folder files))
    (listing : IsListing files)
    (deletable
      : ∀ name contents modified,
          (name, .file contents modified) ∈ files →
          ∃ left, tree.remove? (cache.pathOf name) = .ok left)
    : cache.collect tree now = .ok (tree.fill place (swept cache.policy now files)) := by
  obtain ⟨accepted, leads⟩ := FileTree.leadsTo_of_find? opened
  have plain : ∀ name ∈ collected cache.policy now files, IsPlain name := by
    intro name member
    obtain ⟨contents, modified, filed, -⟩ := isFile_of_mem_collected listing.distinct member
    exact listing.plain _ filed
  refine collect_removable leads accepted plain ?_
  intro name member found present
  obtain ⟨contents, modified, filed, looked⟩ := isFile_of_mem_collected listing.distinct member
  obtain rfl := Option.some.inj (present.symm.trans looked)
  obtain ⟨left, removed⟩ := deletable name contents modified filed
  rw [pathOf, leads.remove?_own (plain name member)] at removed
  cases reached : fileRefusal? cache.root name with
  | none => exact ⟨rfl, rfl⟩
  | some e =>
      rw [reached] at removed
      cases removed

/-- An entry's file that a collection leaves is that of an entry in use. -/
theorem mem_inUse_swept {contents : ByteArray} {modified : Int}
    (stays : (name, .file contents modified) ∈ swept policy now files)
    (named : (entryStem? name).isSome = true)
    : ∃ savedAt, (name, savedAt, contents.size) ∈ inUse policy now (swept policy now files) := by
  rcases judge_file named with discarded | ⟨savedAt, kept⟩
  · obtain ⟨filed, spared⟩ := List.mem_filter.mp stays
    have lost : name ∈ collected policy now files :=
      List.mem_append_left _ (mem_outOfUse.mpr ⟨_, filed, discarded⟩)
    simp [lost] at spared
  · exact ⟨savedAt, mem_inUse.mpr ⟨_, stays, kept⟩⟩

/-- After a collection in a folder whose files can be removed, the entries have no more bytes
together than they may.  Those that went for this, one after the other, were not saved later than
any that is left, and the last of them would have been too much.
-/
theorem collect_evicts (opened : tree.find? true cache.root = .ok (place, .folder files))
    (listing : IsListing files)
    (deletable
      : ∀ name contents modified,
          (name, .file contents modified) ∈ files →
          ∃ left, tree.remove? (cache.pathOf name) = .ok left)
    : ∃ (gone : List (FileName × Nat × Nat)) (later : List (FileName × FileNode)),
        cache.collect tree now = .ok (tree.fill place later)
        ∧ collected cache.policy now files = outOfUse cache.policy now files ++ gone.map Prod.fst
        ∧ later = files.filter (fun file => !(collected cache.policy now files).contains file.1)
        ∧ usedBytes cache.policy now later ≤ cache.policy.budget
        ∧ (∀ entry ∈ gone,
            entry ∈ inUse cache.policy now files
            ∧ ∀ other ∈ inUse cache.policy now later, entry.2.1 ≤ other.2.1)
        ∧ (∀ last,
            gone.getLast? = some last →
            cache.policy.budget < usedBytes cache.policy now later + last.2.2)
        ∧ ∀ name contents modified,
            (name, .file contents modified) ∈ later →
            (entryStem? name).isSome = true →
            ∃ savedAt, (name, savedAt, contents.size) ∈ inUse cache.policy now later := by
  obtain ⟨gone, kept, perm, names, older, fit, needed⟩ := exists_collected cache.policy now files
  have left := inUse_swept listing.distinct perm names
  have used : usedBytes cache.policy now (swept cache.policy now files) = totalSize kept := by
    rw [usedBytes_eq, totalSize_perm left]
  refine ⟨gone, swept cache.policy now files, collect_deletable opened listing deletable, names,
    rfl, used ▸ fit, ?_, used ▸ needed, ?_⟩
  · intro entry evicted
    refine ⟨perm.subset (List.mem_append_left kept evicted), fun other stays => ?_⟩
    exact older entry evicted other (left.subset stays)
  · intro name contents modified stays named
    exact mem_inUse_swept stays named

/-- The start of an entry's file. -/
def sampleStart (savedAt : Nat) (fingerprint : String) : ByteArray :=
  (Header.mk schemaVersion programVersion savedAt fingerprint fingerprint).encode

/-- A stray file and two entries. -/
def sampleCrowd : List (FileName × FileNode) :=
  [(Text.toBytes "notes.txt", .file .empty 0),
    (Text.toBytes "b.bin", .file (sampleStart 2000 "b") 0),
    (Text.toBytes "a.bin", .file (sampleStart 1000 "a") 0)]

/-- A cache for one of them. -/
def sampleTight : Cache := ⟨Path.ofString "/c", { budget := 50 }, 0⟩

def sampleFull : FileTree := ⟨.folder [(Text.toBytes "c", .folder sampleCrowd)], []⟩

/-- The stray file goes, and the older entry. -/
theorem collect_evicts_sample
    : sampleFull.find? true sampleTight.root = .ok ([Text.toBytes "c"], .folder sampleCrowd)
      ∧ IsListing sampleCrowd
      ∧ (∀ name contents modified,
          (name, .file contents modified) ∈ sampleCrowd →
          ∃ left, sampleFull.remove? (sampleTight.pathOf name) = .ok left)
      ∧ ∃ later,
          sampleTight.collect sampleFull 3000 = .ok (sampleFull.fill [Text.toBytes "c"] later)
          ∧ later = [(Text.toBytes "b.bin", .file (sampleStart 2000 "b") 0)]
          ∧ usedBytes sampleTight.policy 3000 later ≤ 50
          ∧ 50 < usedBytes sampleTight.policy 3000 later + 43 := by
  have opened : sampleFull.find? true sampleTight.root
      = .ok ([Text.toBytes "c"], .folder sampleCrowd) := by cbv
  have listing : IsListing sampleCrowd := by
    constructor
    · have apart : (sampleCrowd.map Prod.fst).Nodup := by decide +kernel
      exact apart
    · intro file member
      simp only [sampleCrowd, List.mem_cons, List.not_mem_nil, or_false] at member
      rcases member with rfl | rfl | rfl <;> exact ⟨by decide, by decide, by decide, by decide⟩
  have deletable : ∀ name contents modified,
      (name, .file contents modified) ∈ sampleCrowd →
      ∃ left, sampleFull.remove? (sampleTight.pathOf name) = .ok left := by
    intro name contents modified member
    simp only [sampleCrowd, List.mem_cons, Prod.mk.injEq, List.not_mem_nil, or_false] at member
    rcases member with ⟨rfl, -⟩ | ⟨rfl, -⟩ | ⟨rfl, -⟩ <;> exact ⟨_, by cbv⟩
  have used : inUse sampleTight.policy 3000 sampleCrowd
      = [(Text.toBytes "b.bin", 2000, 43), (Text.toBytes "a.bin", 1000, 43)] := by decide +kernel
  have unused : outOfUse sampleTight.policy 3000 sampleCrowd = [Text.toBytes "notes.txt"] := by
    decide +kernel
  have lost : collected sampleTight.policy 3000 sampleCrowd
      = [Text.toBytes "notes.txt", Text.toBytes "a.bin"] := by
    have aged : byAge [(Text.toBytes "b.bin", 2000, 43), (Text.toBytes "a.bin", 1000, 43)]
        = [(Text.toBytes "a.bin", 1000, 43), (Text.toBytes "b.bin", 2000, 43)] := by cbv
    rw [collected, unused, usedBytes, used, aged]
    rfl
  obtain ⟨gone, later, done, names, left, fits, evicted, needed, -⟩ :=
    collect_evicts opened listing deletable
  refine ⟨opened, listing, deletable, later, done, ?_, fits, ?_⟩
  · rw [left, lost]
    rfl
  · rw [lost, unused] at names
    obtain ⟨⟨name, savedAt, size⟩, rfl, rfl⟩ :=
      List.map_eq_singleton_iff.mp (List.cons.inj names).2.symm
    obtain ⟨member, -⟩ := evicted _ List.mem_cons_self
    have apart : Text.toBytes "a.bin" ≠ Text.toBytes "b.bin" := by decide
    obtain ⟨rfl, rfl⟩ : savedAt = 1000 ∧ size = 43 := by simpa [used, apart] using member
    exact needed _ rfl

end EarlyBreak.Cache
