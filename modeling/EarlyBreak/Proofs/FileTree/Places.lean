import EarlyBreak.FileTree.Basic
import EarlyBreak.Index
import Mathlib

/-! What is at the places of a tree once the node at one place was set.  Where a folder gets entries
or loses files, everything else that was in the tree before looks to a path as it did.
-/

namespace EarlyBreak

namespace FileNode

variable {node new other : FileNode} {place below : Place} {name : FileName}
  {entries : List (FileName × FileNode)}

theorem lookup_eq_find? (name : FileName) (entries : List (FileName × FileNode))
    : entries.lookup name = Index.find? name entries := by
  induction entries with
  | nil => rfl
  | cons entry rest ih =>
      obtain ⟨first, node⟩ := entry
      by_cases here : first = name
      · simp [Index.find?, here]
      · simp [Index.find?, List.lookup, beq_eq_false_iff_ne.mpr (Ne.symm here), here, ih]

theorem setEntry_eq_set (name : FileName) (node : FileNode)
    (entries : List (FileName × FileNode))
    : setEntry name node entries = Index.set name node entries := by
  induction entries with
  | nil => rfl
  | cons entry rest ih =>
      obtain ⟨first, old⟩ := entry
      by_cases here : first = name <;> simp [setEntry, Index.set, here, ih]

/-- A set entry is found under its name, and the others as before. -/
theorem lookup_setEntry (name other : FileName) (node : FileNode)
    (entries : List (FileName × FileNode))
    : (setEntry name node entries).lookup other
      = if other = name then some node else entries.lookup other := by
  rw [lookup_eq_find?, setEntry_eq_set, Index.find?_set, ← lookup_eq_find?]

theorem lookup_filter (kept : FileName → Bool) (name : FileName)
    (entries : List (FileName × FileNode))
    : (entries.filter (kept ·.1)).lookup name
      = if kept name then entries.lookup name else none := by
  induction entries with
  | nil => simp
  | cons entry rest ih =>
      obtain ⟨first, node⟩ := entry
      by_cases here : name = first
      · subst first
        by_cases keep : kept name = true
        · simp [keep]
        · simpa [keep] using ih
      · have other := beq_eq_false_iff_ne.mpr here
        by_cases keep : kept first = true
        · simp [keep, List.lookup, other, ih]
        · simp [keep, List.lookup, other, ih]

theorem setEntry_setEntry (name : FileName) (node new : FileNode)
    (entries : List (FileName × FileNode))
    : setEntry name new (setEntry name node entries) = setEntry name new entries := by
  induction entries with
  | nil => simp [setEntry]
  | cons entry rest ih =>
      obtain ⟨first, old⟩ := entry
      by_cases here : first = name <;> simp [setEntry, here, ih]

theorem mem_setEntry {entry : FileName × FileNode}
    (member : entry ∈ setEntry name node entries)
    : entry = (name, node) ∨ entry ∈ entries := by
  induction entries with
  | nil => exact .inl (List.mem_singleton.mp member)
  | cons first rest ih =>
      rw [setEntry] at member
      split at member
      · rcases List.mem_cons.mp member with same | later
        · exact .inl same
        · exact .inr (List.mem_cons_of_mem _ later)
      · rcases List.mem_cons.mp member with same | later
        · exact .inr (same ▸ List.mem_cons_self)
        · exact (ih later).imp_right (List.mem_cons_of_mem _)

theorem filter_setEntry (name : FileName) (node : FileNode)
    (entries : List (FileName × FileNode))
    : (setEntry name node entries).filter (·.1 != name) = entries.filter (·.1 != name) := by
  induction entries with
  | nil => simp [setEntry]
  | cons entry rest ih =>
      obtain ⟨first, old⟩ := entry
      by_cases here : first = name
      · simp [setEntry, here]
      · simp [setEntry, here, ih]

theorem setEntry_of_lookup (present : entries.lookup name = some node)
    : setEntry name node entries = entries := by
  induction entries with
  | nil => cases present
  | cons entry rest ih =>
      obtain ⟨first, old⟩ := entry
      by_cases here : first = name
      · subst first
        simpa [setEntry, eq_comm] using present
      · have later : rest.lookup name = some node := by
          simpa [List.lookup, beq_eq_false_iff_ne.mpr (Ne.symm here)] using present
        simp [setEntry, here, ih later]

theorem filter_ne_of_lookup (absent : entries.lookup name = none)
    : entries.filter (·.1 != name) = entries := by
  rw [List.filter_eq_self]
  intro entry member
  have different : name ≠ entry.1 :=
    bne_iff_ne.mp (List.lookup_eq_none_iff.mp absent entry member)
  exact bne_iff_ne.mpr different.symm

theorem at?_append (node : FileNode) (place below : Place)
    : node.at? (place ++ below) = (node.at? place).bind (·.at? below) := by
  induction place generalizing node with
  | nil => rfl
  | cons name rest ih =>
      simp only [List.cons_append, at?, Option.bind_assoc]
      cases node.entry? name with
      | none => rfl
      | some child => exact ih child

theorem at?_concat (holds : node.at? place = some (.folder entries)) (name : FileName)
    : node.at? (place ++ [name]) = entries.lookup name := by
  simp only [at?_append, holds, Option.bind_some, at?, entry?, FileNode.entries]
  cases entries.lookup name <;> rfl

/-- A place below the top lies in a folder that has an entry on the way. -/
theorem at?_cons_eq_some {rest : Place} (holds : node.at? (name :: rest) = some other)
    : ∃ entries child,
        node = .folder entries
        ∧ entries.lookup name = some child
        ∧ child.at? rest = some other := by
  cases node with
  | folder entries =>
      obtain ⟨child, found, below⟩ := Option.bind_eq_some_iff.mp holds
      exact ⟨entries, child, rfl, found, below⟩
  | file contents modified | link target => cases holds

theorem set_cons {child : FileNode} (found : entries.lookup name = some child) (rest : Place)
    : (folder entries).set new (name :: rest)
      = .folder (setEntry name (child.set new rest) entries) := by
  cases rest with
  | nil => simp [set]
  | cons second rest => simp [set, found]

theorem erase_cons {child : FileNode} (found : entries.lookup name = some child)
    (second : FileName) (rest : Place)
    : (folder entries).erase (name :: second :: rest)
      = .folder (setEntry name (child.erase (second :: rest)) entries) := by
  simp [erase, found]

theorem at?_set_self (holds : node.at? place = some other)
    : (node.set new place).at? place = some new := by
  induction place generalizing node with
  | nil => simp [set, at?]
  | cons name rest ih =>
      obtain ⟨entries, child, rfl, found, below⟩ := at?_cons_eq_some holds
      rw [set_cons found]
      simp [at?, entry?, FileNode.entries, lookup_setEntry, ih below]

theorem set_self (holds : node.at? place = some other)
    : node.set other place = node := by
  induction place generalizing node with
  | nil => exact (Option.some.inj holds).symm
  | cons name rest ih =>
      obtain ⟨entries, child, rfl, found, below⟩ := at?_cons_eq_some holds
      rw [set_cons found, ih below, setEntry_of_lookup found]

theorem set_set (holds : node.at? place = some other) (first second : FileNode)
    : (node.set first place).set second place = node.set second place := by
  induction place generalizing node with
  | nil => simp [set]
  | cons name rest ih =>
      obtain ⟨entries, child, rfl, found, below⟩ := at?_cons_eq_some holds
      have there : (setEntry name (child.set first rest) entries).lookup name
          = some (child.set first rest) := by rw [lookup_setEntry, if_pos rfl]
      rw [set_cons found, set_cons there, set_cons found, ih below, setEntry_setEntry]

/-- Setting an entry of a folder is giving the folder that entry. -/
theorem set_concat (holds : node.at? place = some (.folder entries)) (name : FileName)
    (new : FileNode)
    : node.set new (place ++ [name]) = node.set (.folder (setEntry name new entries)) place := by
  induction place generalizing node with
  | nil =>
      obtain rfl := Option.some.inj holds
      simp [set]
  | cons first rest ih =>
      obtain ⟨others, child, rfl, found, below⟩ := at?_cons_eq_some holds
      rw [List.cons_append, set_cons found, set_cons found, ih below]

/-- Erasing an entry of a folder is leaving it out of the folder. -/
theorem erase_concat (holds : node.at? place = some (.folder entries)) (name : FileName)
    : node.erase (place ++ [name])
      = node.set (.folder (entries.filter (·.1 != name))) place := by
  induction place generalizing node with
  | nil =>
      obtain rfl := Option.some.inj holds
      simp [erase, set]
  | cons first rest ih =>
      obtain ⟨others, child, rfl, found, below⟩ := at?_cons_eq_some holds
      obtain ⟨second, more, split⟩ : ∃ second more, rest ++ [name] = second :: more := by
        cases rest with
        | nil => exact ⟨name, [], rfl⟩
        | cons second rest => exact ⟨second, rest ++ [name], rfl⟩
      have kept := ih below
      rw [split] at kept
      rw [List.cons_append, split, erase_cons found, set_cons found, kept]

/-- Two nodes look alike to a path that leads to them: both are folders, or they are the same. -/
def Alike : FileNode → FileNode → Prop
  | folder _, folder _ => True
  | a, b => a = b

theorem Alike.refl (node : FileNode) : node.Alike node := by
  cases node <;> simp [Alike]

/-- Whatever is at a place in a tree and no file is there in a later tree, too, and looks alike. -/
def KeepsWays (node later : FileNode) : Prop :=
  ∀ {place found},
    node.at? place = some found →
    found.isFile = false →
    ∃ now, later.at? place = some now ∧ found.Alike now

/-- Of the entries of a folder only files are gone or changed. -/
def LosesFiles (entries others : List (FileName × FileNode)) : Prop :=
  ∀ {name found},
    entries.lookup name = some found →
    found.isFile = false →
    others.lookup name = some found

theorem losesFiles_without
    (isFile : ∀ found, entries.lookup name = some found → found.isFile = true)
    : LosesFiles entries (entries.filter (·.1 != name)) := by
  intro other found present noFile
  have different : (other != name) = true := by
    rw [bne_iff_ne]
    rintro rfl
    rw [isFile found present] at noFile
    cases noFile
  rw [lookup_filter (· != name), if_pos different, present]

/-- Nothing is below a file. -/
theorem isFile_of_at? (present : node.at? place = some other) (noFile : other.isFile = false)
    : node.isFile = false := by
  cases node with
  | file contents modified =>
      cases place with
      | nil =>
          obtain rfl := Option.some.inj present
          exact noFile
      | cons name rest => cases present
  | link | folder => rfl

/-- A tree keeps what is no file when a folder loses files, by induction along the place. -/
theorem keepsWays_set {others : List (FileName × FileNode)}
    (holds : node.at? place = some (.folder entries)) (loses : LosesFiles entries others)
    : node.KeepsWays (node.set (.folder others) place) := by
  induction place generalizing node with
  | nil =>
      obtain rfl := Option.some.inj holds
      intro place found present noFile
      cases place with
      | nil =>
          obtain rfl := Option.some.inj present
          exact ⟨.folder others, rfl, trivial⟩
      | cons name rest =>
          obtain ⟨_, child, same, there, deeper⟩ := at?_cons_eq_some present
          obtain rfl := FileNode.folder.inj same
          have kept := loses there (isFile_of_at? deeper noFile)
          refine ⟨found, ?_, .refl found⟩
          simpa [set, at?, entry?, FileNode.entries, kept] using deeper
  | cons name rest ih =>
      obtain ⟨above, child, rfl, here, below⟩ := at?_cons_eq_some holds
      rw [set_cons here]
      intro place found present noFile
      cases place with
      | nil =>
          obtain rfl := Option.some.inj present
          exact ⟨_, rfl, trivial⟩
      | cons first more =>
          obtain ⟨_, other, same, there, deeper⟩ := at?_cons_eq_some present
          obtain rfl := FileNode.folder.inj same
          simp only [at?, entry?, FileNode.entries, lookup_setEntry]
          by_cases onTheWay : first = name
          · subst first
            obtain rfl := Option.some.inj (here.symm.trans there)
            simpa using ih below deeper noFile
          · refine ⟨found, ?_, .refl found⟩
            simpa [onTheWay, there] using deeper

end FileNode

end EarlyBreak
