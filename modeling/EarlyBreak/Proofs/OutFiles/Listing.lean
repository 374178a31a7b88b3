import EarlyBreak.OutFiles.Scan
import EarlyBreak.Proofs.FileTree.Folder

/-! The compiled files that a scan lists.  In a tree that a file system can have, each of them is
listed under one path only.
-/

namespace EarlyBreak

open EarlyBreak.Path (IsPlain)

/-- A node that a file system can have: the names in folders are plain, and times are words. -/
inductive FileNode.Regular : FileNode → Prop where
  | file {contents modified}
      : modified < 2 ^ 64
        → Regular (.file contents modified)
  | link {target}
      : Regular (.link target)
  | folder {entries}
      : (∀ entry ∈ entries, IsPlain entry.1)
        → (∀ entry ∈ entries, entry.2.Regular)
        → Regular (.folder entries)

variable {node other : FileNode} {place : Place} {tree : FileTree} {p base : Path} {out : OutFiles}
  {names found : Place} {file twin : CompiledFile}

/-- What is inside a regular node is regular. -/
theorem FileNode.Regular.at? (regular : node.Regular) (holds : node.at? place = some other)
    : other.Regular := by
  induction place generalizing node with
  | nil =>
      obtain rfl := Option.some.inj holds
      exact regular
  | cons name rest ih =>
      obtain ⟨entries, child, rfl, found, below⟩ := FileNode.at?_cons_eq_some holds
      obtain ⟨before, after, rfl, _⟩ := List.lookup_eq_some_iff.mp found
      cases regular with
      | folder plain children => exact ih (children (name, child) (by simp)) below

/-- Whatever a path leads to is regular. -/
theorem FileTree.regular_of_find? {followLast : Bool} (regular : tree.root.Regular)
    (found : (tree.find? followLast p).map (·.2) = .ok node)
    : node.Regular := by
  rw [find?] at found
  cases reached : tree.place? followLast p with
  | error e => rw [reached] at found; cases found
  | ok place =>
      cases holds : tree.root.at? place with
      | none =>
          simp [reached, holds, bind, Except.bind, throw, throwThe, MonadExceptOf.throw,
            Except.map] at found
      | some there =>
          obtain rfl : there = node := by
            simpa [reached, holds, bind, Except.bind, pure, Except.pure, Except.map] using found
          exact regular.at? holds

namespace OutFiles

theorem regular_of_rootNode? (regular : tree.root.Regular) (found : rootNode? tree base = some node)
    : node.Regular := by
  rw [rootNode?] at found
  split at found
  case h_1 =>
    cases reached : tree.node? base with
    | error e => simp [reached, Except.toOption] at found
    | ok there =>
        obtain ⟨rfl, _⟩ : there = node ∧ node.isFolder = true := by
          simpa [reached, Except.toOption, Option.filter_eq_some_iff] using found
        exact FileTree.regular_of_find? regular reached
  case h_2 reached =>
    obtain rfl := Option.some.inj found
    exact FileTree.regular_of_find? regular reached
  case h_3 => cases found

theorem mem_filesAmong {entries : List (FileName × FileNode)}
    (listed : found ∈ filesAmong out names entries)
    : ∃ entry ∈ entries, found ∈ filesAt out (names ++ [entry.1]) entry.2 := by
  induction entries with
  | nil => simp [filesAmong] at listed
  | cons entry rest ih =>
      rw [filesAmong, List.mem_append] at listed
      rcases listed with here | later
      · exact ⟨entry, List.mem_cons_self, here⟩
      · obtain ⟨entry, member, there⟩ := ih later
        exact ⟨entry, List.mem_cons_of_mem _ member, there⟩

/-- The files below a node have plain names on their way from it. -/
theorem plain_of_mem_filesAt (regular : node.Regular) (listed : found ∈ filesAt out names node)
    : ∃ below, found = names ++ below ∧ ∀ name ∈ below, IsPlain name := by
  induction regular generalizing names with
  | file =>
      rw [filesAt] at listed
      split at listed
      · exact ⟨[], by simpa using listed, nofun⟩
      · cases listed
  | link => simp [filesAt] at listed
  | folder plain _ ih =>
      rw [filesAt] at listed
      split at listed
      · cases listed
      · obtain ⟨⟨name, child⟩, member, there⟩ := mem_filesAmong listed
        obtain ⟨below, rfl, rest⟩ := ih (name, child) member there
        exact ⟨name :: below, by simp, List.forall_mem_cons.mpr ⟨plain (name, child) member, rest⟩⟩

/-- A path below another one has its components, and then the names. -/
theorem components_pathBelow (nonempty : base.bytes ≠ []) (plain : ∀ name ∈ names, IsPlain name)
    : (pathBelow base names).components = base.components ++ names.map .name := by
  induction names generalizing base with
  | nil => simp [pathBelow]
  | cons name rest ih =>
      obtain ⟨first, others⟩ := List.forall_mem_cons.mp plain
      have goesOn := ih (FileTree.join_nonempty (p := base) first) others
      rw [Path.components_join nonempty first, List.append_assoc] at goesOn
      exact goesOn

/-- A file that is inspected has the path and the time of what is in the tree. -/
theorem of_inspect? (inspected : inspect? tree p = .ok (some file))
    : file.path = p ∧ tree.modified? p = .ok file.modified := by
  rw [inspect?] at inspected
  cases read : tree.read? p with
  | error e => simp [read, bind, Except.bind] at inspected
  | ok contents =>
      cases time : tree.modified? p with
      | error e => simp [read, time, bind, Except.bind] at inspected
      | ok modified =>
          simp only [read, time, bind, Except.bind, pure, Except.pure, Except.ok.injEq,
            Option.bind_eq_some_iff] at inspected
          obtain ⟨_, _, _, _, same⟩ := inspected
          rw [← Option.some.inj same]
          exact ⟨rfl, rfl⟩

/-- A listed file is what there is at its path, which is below the root. -/
theorem mem_scan (regular : tree.root.Regular) (listed : file ∈ scan tree base out)
    : inspect? tree file.path = .ok (some file)
      ∧ ∃ names, file.path = pathBelow base names ∧ ∀ name ∈ names, IsPlain name := by
  rw [scan] at listed
  cases found : rootNode? tree base with
  | none => simp [found] at listed
  | some node =>
      rw [found] at listed
      obtain ⟨names, walked, seen⟩ := List.mem_filterMap.mp listed
      split at seen
      case h_1 inspected =>
        subst seen
        have known := regular_of_rootNode? regular found
        obtain ⟨_, rfl, plain⟩ := plain_of_mem_filesAt known walked
        have path := (of_inspect? inspected).1
        exact ⟨by rw [path]; exact inspected, names, path, plain⟩
      case h_2 => cases seen

/-- A listed file is listed under one path only. -/
theorem eq_of_mem_scan (regular : tree.root.Regular) (nonempty : base.bytes ≠ [])
    (listed : file ∈ scan tree base out) (also : twin ∈ scan tree base out)
    (same : file.path.components = twin.path.components)
    : file = twin := by
  obtain ⟨inspected, names, path, plain⟩ := mem_scan regular listed
  obtain ⟨seen, others, spelled, brief⟩ := mem_scan regular also
  rw [path, spelled, components_pathBelow nonempty plain, components_pathBelow nonempty brief,
    List.append_cancel_left_eq] at same
  obtain rfl : names = others :=
    List.map_injective_iff.mpr (fun _ _ => Path.Component.name.inj) same
  rw [path, ← spelled, seen] at inspected
  exact (Option.some.inj (Except.ok.inj inspected)).symm

/-- The time of a listed file fits a word, as the tree is regular. -/
theorem modified_lt_of_mem_scan (regular : tree.root.Regular) (listed : file ∈ scan tree base out)
    : file.modified < 2 ^ 64 := by
  have time := (of_inspect? (mem_scan regular listed).1).2
  rw [FileTree.modified?] at time
  cases found : tree.node? file.path with
  | error e => simp [found, bind, Except.bind] at time
  | ok node =>
      cases FileTree.regular_of_find? regular found with
      | file bounded =>
          simp only [found, bind, Except.bind, pure, Except.pure, Except.ok.injEq] at time
          omega
      | link | folder =>
          simp only [found, bind, Except.bind, pure, Except.pure, Except.ok.injEq] at time
          omega

end OutFiles

end EarlyBreak
