import EarlyBreak.Proofs.FileTree.Walk

/-! A folder that a path leads to, and the files in it.  However its path is spelled, reading,
writing, removing and replacing a file in it come to the same change of its entries, or to a
refusal of the path that changes nothing.
-/

namespace EarlyBreak

open EarlyBreak.Path (slash dotName dotDotName IsPlain steps)

namespace FileTree

/-- Why a path is refused whatever there is in the tree. -/
def refusal? (p : Path) : Option IoError :=
  if p.bytes.contains 0 then some .zeroInName
  else if maxPathLength ≤ p.bytes.length then some .nameTooLong
  else none

/-- Where the walk of a path starts. -/
def origin (tree : FileTree) (p : Path) : Place := if p.isAbsolute then [] else tree.current

/-- The steps of a path lead to a folder.  The path itself may be refused. -/
structure LeadsTo (tree : FileTree) (p : Path) (place : Place)
    (entries : List (FileName × FileNode)) : Prop where
  nonempty : p.bytes ≠ []
  reaches : Reaches tree.root maxLinks (tree.origin p) p.steps place
  holds : tree.root.at? place = some (.folder entries)

/-- The tree with the entries of a folder replaced. -/
def fill (tree : FileTree) (place : Place) (entries : List (FileName × FileNode)) : FileTree :=
  tree.setAt place (.folder entries)

variable {tree : FileTree} {p q folder : Path} {place : Place} {followLast : Bool} {name : FileName}
  {entries others held : List (FileName × FileNode)}

/-- A path that is not empty is found by walking its pieces from where it starts. -/
theorem place?_eq (nonempty : p.bytes ≠ [])
    : tree.place? followLast p
      = match refusal? p with
        | some e => .error e
        | none => walk tree.root followLast maxLinks (tree.origin p) (pathPieces p) := by
  simp only [place?, nonempty, if_false, refusal?, origin]
  split
  · rfl
  · split <;> rfl

theorem filter_pathPieces (p : Path)
    : (pathPieces p).filter (· != dotName) = p.steps := by
  have kept : (p.bytes.splitOn slash).filter (fun piece => piece != [] && piece != dotName)
      = ((p.bytes.splitOn slash).filter (· != [])).filter (· != dotName) := by
    rw [List.filter_filter]
    congr
    funext piece
    exact Bool.and_comm _ _
  rw [pathPieces, List.filter_append, Path.steps, kept]
  split <;> simp

theorem filter_steps (p : Path)
    : p.steps.filter (· != dotName) = p.steps := by
  rw [List.filter_eq_self]
  exact fun piece member => bne_iff_ne.mpr (Path.mem_steps member).2.2

namespace LeadsTo

-----------------------------------------------------------------------------------------
-- Spellings of the path
-----------------------------------------------------------------------------------------

theorem reaches_pieces (leads : LeadsTo tree p place entries)
    : Reaches tree.root maxLinks (tree.origin p) (pathPieces p) place :=
  leads.reaches.of_same_steps leads.holds (by rw [filter_pathPieces, filter_steps])

/-- Where a path leads is decided by its steps. -/
theorem of_same_steps (leads : LeadsTo tree p place entries) (nonempty : q.bytes ≠ [])
    (same : q.steps = p.steps) (absolute : q.isAbsolute = p.isAbsolute)
    : LeadsTo tree q place entries :=
  ⟨nonempty, by simpa only [origin, same, absolute] using leads.reaches, leads.holds⟩

/-- A path that leads to a folder opens it unless it is refused. -/
theorem find?_eq (leads : LeadsTo tree p place entries)
    : tree.find? true p
      = match refusal? p with
        | some e => .error e
        | none => .ok (place, .folder entries) := by
  rw [find?, place?_eq leads.nonempty, leads.reaches_pieces.walk_eq]
  cases refusal? p with
  | some e => rfl
  | none => simp [bind, Except.bind, leads.holds, pure, Except.pure]

/-- A path that leads to a folder is seen as one unless it is refused. -/
theorem isFolder_iff (leads : LeadsTo tree p place entries)
    : tree.isFolder p = true ↔ refusal? p = none := by
  rw [isFolder, node?, leads.find?_eq]
  cases refusal? p <;> simp [Except.map, FileNode.isFolder]

end LeadsTo

/-- What is found to be a folder is led to by the path. -/
theorem leadsTo_of_find? (opened : tree.find? true p = .ok (place, .folder entries))
    : refusal? p = none ∧ LeadsTo tree p place entries := by
  have nonempty : p.bytes ≠ [] := by
    intro empty
    rw [find?, place?, if_pos empty] at opened
    cases opened
  rw [find?, place?_eq nonempty] at opened
  cases refused : refusal? p with
  | some e => rw [refused] at opened; cases opened
  | none =>
      rw [refused] at opened
      cases walked : walk tree.root true maxLinks (tree.origin p) (pathPieces p) with
      | error e => rw [walked] at opened; cases opened
      | ok reached =>
          rw [walked] at opened
          cases holds : tree.root.at? reached with
          | none => simp [bind, Except.bind, holds, throw, throwThe, MonadExceptOf.throw] at opened
          | some found =>
              obtain ⟨rfl, rfl⟩ : reached = place ∧ found = .folder entries := by
                simpa [bind, Except.bind, holds, pure, Except.pure] using opened
              exact ⟨rfl, nonempty, (reaches_of_walk walked holds).of_same_steps holds
                (by rw [filter_pathPieces, filter_steps]), holds⟩

theorem leadsTo_of_node? (opened : tree.node? p = .ok (.folder entries))
    : refusal? p = none ∧ ∃ place, LeadsTo tree p place entries := by
  rw [node?] at opened
  cases found : tree.find? true p with
  | error e => rw [found] at opened; cases opened
  | ok reached =>
      obtain ⟨place, node⟩ := reached
      rw [found] at opened
      obtain rfl : node = .folder entries := Except.ok.inj opened
      obtain ⟨accepted, leads⟩ := leadsTo_of_find? found
      exact ⟨accepted, place, leads⟩

-----------------------------------------------------------------------------------------
-- Filling the folder
-----------------------------------------------------------------------------------------

/-- Paths to a folder lead to it when it loses files. -/
theorem LeadsTo.lose (leads : LeadsTo tree p place entries)
    (loses : FileNode.LosesFiles entries others)
    : LeadsTo (tree.fill place others) p place others :=
  ⟨leads.nonempty, leads.reaches.keeps leads.holds (FileNode.keepsWays_set leads.holds loses),
    FileNode.at?_set_self leads.holds⟩

/-- Paths to an empty folder lead to it when it gets entries. -/
theorem LeadsTo.fill (bare : LeadsTo tree p place [])
    (entries : List (FileName × FileNode))
    : LeadsTo (tree.fill place entries) p place entries :=
  bare.lose nofun

theorem fill_self (leads : LeadsTo tree p place entries) : tree.fill place entries = tree := by
  rw [FileTree.fill, setAt, FileNode.set_self leads.holds]

theorem fill_fill (leads : LeadsTo tree p place held) (entries others : List (FileName × FileNode))
    : (tree.fill place entries).fill place others = tree.fill place others := by
  simp only [FileTree.fill, setAt, FileNode.set_set leads.holds]

-----------------------------------------------------------------------------------------
-- A file in the folder
-----------------------------------------------------------------------------------------

/-- Why the path of a file in a folder is refused whatever there is in the tree. -/
def fileRefusal? (folder : Path) (name : FileName) : Option IoError :=
  (refusal? (folder.join ⟨name⟩)).or
    (if maxNameLength < name.length then some .nameTooLong else none)

/-- A folder has no links, nor folders. -/
def OnlyFiles (entries : List (FileName × FileNode)) : Prop :=
  ∀ entry ∈ entries, entry.2.isFile = true

theorem OnlyFiles.lookup (files : OnlyFiles entries) {node : FileNode}
    (found : entries.lookup name = some node)
    : ∃ contents modified, node = .file contents modified := by
  obtain ⟨before, after, same, _⟩ := List.lookup_eq_some_iff.mp found
  have isFile := files (name, node) (by simp [same])
  cases node with
  | file contents modified => exact ⟨contents, modified, rfl⟩
  | link | folder => cases isFile

theorem OnlyFiles.noLink (files : OnlyFiles entries) (target : Path)
    : entries.lookup name ≠ some (.link target) := by
  intro found
  obtain ⟨contents, modified, same⟩ := files.lookup found
  cases same

theorem join_nonempty (plain : IsPlain name)
    : (p.join ⟨name⟩).bytes ≠ [] := by
  simp only [Path.join, Path.isAbsolute_piece plain.noSlash, Bool.false_eq_true, if_false]
  split <;> simp [plain.nonempty]

/-- The pieces of a joined path end with the name, behind those of the folder. -/
theorem pathPieces_join (nonempty : p.bytes ≠ []) (plain : IsPlain name)
    : ∃ front, pathPieces (p.join ⟨name⟩) = front ++ [name]
        ∧ front.filter (· != dotName) = p.steps := by
  obtain ⟨front, same, steps⟩ := Path.join_name nonempty plain.noSlash
  refine ⟨(front.splitOn slash).filter (· != []), ?_, ?_⟩
  · simp [pathPieces, same, List.splitOn_append_cons_self,
      List.splitOn_eq_singleton plain.noSlash, plain.nonempty]
  · rw [← steps, Path.steps, List.filter_filter]
    congr
    funext piece
    exact Bool.and_comm _ _

namespace LeadsTo

/-- Where the path of an entry of a folder leads to, if it is no link or a link is not followed. -/
theorem place?_own (leads : LeadsTo tree p place entries) (plain : IsPlain name)
    (own : followLast = false ∨ ∀ target, entries.lookup name ≠ some (.link target))
    : tree.place? followLast (p.join ⟨name⟩)
      = match fileRefusal? p name with
        | some e => .error e
        | none => .ok (place ++ [name]) := by
  rw [place?_eq (join_nonempty plain), fileRefusal?]
  cases refusal? (p.join ⟨name⟩) with
  | some e => rfl
  | none =>
      obtain ⟨front, same, steps⟩ := pathPieces_join leads.nonempty plain
      have there : Reaches tree.root maxLinks (tree.origin (p.join ⟨name⟩)) front place := by
        rw [origin, Path.isAbsolute_join (Path.isAbsolute_piece plain.noSlash)]
        exact leads.reaches.of_same_steps leads.holds (by rw [steps, filter_steps])
      obtain ⟨left, goesOn⟩ := there.walk_append (List.cons_ne_nil name []) followLast
      simp only [same, goesOn, Option.none_or]
      rw [walk, leads.holds]
      simp only [plain.noDot, plain.noDotDot, if_false]
      split
      · rfl
      · cases found : entries.lookup name with
        | none => simp
        | some node =>
            cases node with
            | file | folder => simp [walk]
            | link target =>
                rcases own with own | noLink
                · simp [own]
                · exact absurd found (noLink target)

/-- What is found below a folder is the entry with the name, if no link has to be followed. -/
theorem find?_own (leads : LeadsTo tree p place entries) (plain : IsPlain name)
    (own : followLast = false ∨ ∀ target, entries.lookup name ≠ some (.link target))
    : tree.find? followLast (p.join ⟨name⟩)
      = match fileRefusal? p name, entries.lookup name with
        | some e, _ => .error e
        | none, none => .error .notFound
        | none, some node => .ok (place ++ [name], node) := by
  rw [find?, leads.place?_own plain own]
  cases fileRefusal? p name with
  | some e => rfl
  | none =>
      simp only [bind, Except.bind, FileNode.at?_concat leads.holds]
      cases entries.lookup name <;> rfl

/-- A file or link is removed from its folder, if that can be done at all. -/
theorem remove?_own (leads : LeadsTo tree p place entries) (plain : IsPlain name)
    : tree.remove? (p.join ⟨name⟩)
      = match fileRefusal? p name, entries.lookup name with
        | some e, _ => .error e
        | none, none => .error .notFound
        | none, some (.folder _) => .error .isADirectory
        | none, some _ => .ok (tree.fill place (entries.filter (·.1 != name))) := by
  rw [remove?, leads.find?_own plain (Or.inl rfl)]
  cases fileRefusal? p name with
  | some e => rfl
  | none =>
      cases found : entries.lookup name with
      | none => rfl
      | some node =>
          cases node with
          | folder => rfl
          | file | link =>
              simp [bind, Except.bind, pure, Except.pure, FileTree.fill, setAt,
                FileNode.erase_concat leads.holds]

/-- Where the path of a file in a folder leads to. -/
theorem place?_file (leads : LeadsTo tree p place entries) (plain : IsPlain name)
    (files : OnlyFiles entries)
    : tree.place? followLast (p.join ⟨name⟩)
      = match fileRefusal? p name with
        | some e => .error e
        | none => .ok (place ++ [name]) :=
  leads.place?_own plain (Or.inr files.noLink)

/-- In a folder of files each entry is found as it is. -/
theorem find?_file (leads : LeadsTo tree p place entries) (plain : IsPlain name)
    (files : OnlyFiles entries)
    : tree.find? followLast (p.join ⟨name⟩)
      = match fileRefusal? p name, entries.lookup name with
        | some e, _ => .error e
        | none, none => .error .notFound
        | none, some node => .ok (place ++ [name], node) :=
  leads.find?_own plain (Or.inr files.noLink)

/-- A folder that exists is not made again, and the failure is not that something is missing. -/
theorem makeFolder?_eq (leads : LeadsTo tree p place entries)
    : ∃ e, tree.makeFolder? p = .error e ∧ e ≠ .notFound := by
  obtain ⟨nonempty, steps, absolute⟩ := Path.withoutEndSlashes_spec leads.nonempty
  have same := leads.of_same_steps nonempty steps absolute
  obtain ⟨own, found, walked, holds⟩ := same.reaches_pieces.walk_own
  rw [makeFolder?, place?_eq nonempty, walked]
  cases refused : refusal? (withoutEndSlashes p) with
  | none => exact ⟨.exists, by simp [bind, Except.bind, holds]; rfl, nofun⟩
  | some e =>
      refine ⟨e, rfl, ?_⟩
      rintro rfl
      simp only [refusal?] at refused
      split at refused
      · cases refused
      · split at refused <;> cases refused

/-- A folder that is there need not be made, and the attempt fails only if its path is refused. -/
theorem makeFolders_eq (leads : LeadsTo tree p place entries)
    : ∃ outcome,
        tree.makeFolders p = (outcome, tree)
        ∧ (outcome = .ok () ↔ refusal? p = none) := by
  obtain ⟨e, failed, present⟩ := leads.makeFolder?_eq
  refine ⟨if tree.isFolder p then .ok () else .error e, ?_, ?_⟩
  · rw [makeFolders, makeFoldersFrom, if_neg leads.nonempty, failed]
    cases e <;> first | rfl | exact absurd rfl present
  · rw [← leads.isFolder_iff]
    split <;> simp_all

end LeadsTo

-----------------------------------------------------------------------------------------
-- Replacing a file in the folder
-----------------------------------------------------------------------------------------

/-- A temporary name is one that a folder can have, since the ending has no slash. -/
theorem plain_temporaryName (plain : IsPlain name)
    : IsPlain (temporaryName name) := by
  have ending : (Text.toBytes ".tmp.1.0").length = 8 ∧ slash ∉ Text.toBytes ".tmp.1.0" := by
    decide +kernel
  refine Path.isPlain_of_length (by simp [temporaryName, plain.noSlash, ending.2]) ?_
  rw [temporaryName, List.length_append, ending.1]
  omega

/-- The folder of a file has the same steps as the path that the file was given by. -/
theorem folderOf?_join (leads : LeadsTo tree p place entries) (plain : IsPlain name)
    : ∃ folder, folderOf? (p.join ⟨name⟩) = some folder ∧ LeadsTo tree folder place entries := by
  obtain ⟨steps, absolute⟩ := Path.steps_ofComponents p
  have parent : parentPath? (p.join ⟨name⟩) = some (Path.ofComponents p.components) := by
    simp [parentPath?, Path.components_join leads.nonempty plain]
  rw [folderOf?, parent]
  by_cases bare : (Path.ofComponents p.components).bytes = []
  · have empty : Path.ofComponents p.components = ⟨[]⟩ := congrArg Path.mk bare
    refine ⟨⟨dotName⟩, by simp [bare], leads.of_same_steps (by decide) ?_ ?_⟩
    · rw [← steps, empty]
      decide
    · rw [← absolute, empty]
      decide
  · exact ⟨_, by simp [bare], leads.of_same_steps bare steps absolute⟩

/-- The path of a file in a folder ends in the name of the file, in every sense. -/
theorem ends_join (nonempty : p.bytes ≠ []) (plain : IsPlain name)
    : (p.join ⟨name⟩).fileName? = some name
      ∧ withoutEndSlashes (p.join ⟨name⟩) = p.join ⟨name⟩
      ∧ endsInDots (p.join ⟨name⟩) = false
      ∧ asksForFolder (p.join ⟨name⟩) = false := by
  obtain ⟨front, same, _⟩ := Path.join_name nonempty plain.noSlash
  have last : (p.join ⟨name⟩).bytes.getLast? ≠ some slash := by
    intro ends
    rw [same, List.getLast?_append_of_ne_nil _ (by simp), List.getLast?_cons_of_ne_nil
      plain.nonempty] at ends
    exact plain.noSlash (List.mem_of_getLast? ends)
  have whole : withoutEndSlashes (p.join ⟨name⟩) = p.join ⟨name⟩ := by
    cases reversed : (p.join ⟨name⟩).bytes.reverse with
    | nil => simp [withoutEndSlashes, reversed]
    | cons byte rest =>
        have ending : byte ≠ slash := by
          rintro rfl
          exact last (by rw [List.getLast?_eq_head?_reverse, reversed, List.head?_cons])
        simp [withoutEndSlashes, reversed, ending, ← List.reverse_eq_iff.mp reversed]
  refine ⟨by simp [Path.fileName?, Path.components_join nonempty plain], whole, ?_, ?_⟩
  · rw [endsInDots, whole, same, List.splitOn_append_cons_self,
      List.splitOn_eq_singleton plain.noSlash]
    simp [plain.noDot, plain.noDotDot]
  · simp [asksForFolder, last]

theorem OnlyFiles.setEntry (files : OnlyFiles entries) (name : FileName) (contents : ByteArray)
    (modified : Int)
    : OnlyFiles (FileNode.setEntry name (.file contents modified) entries) := by
  intro entry member
  rcases FileNode.mem_setEntry member with rfl | old
  · rfl
  · exact files entry old

namespace LeadsTo

/-- Writing a file sets its entry in the folder, if the path is not refused. -/
theorem write?_file (leads : LeadsTo tree p place entries) (plain : IsPlain name)
    (files : OnlyFiles entries) (contents : ByteArray) (now : Int)
    : tree.write? (p.join ⟨name⟩) contents now
      = match fileRefusal? p name with
        | some e => .error e
        | none => .ok (tree.fill place (FileNode.setEntry name (.file contents now) entries)) := by
  rw [write?, leads.place?_file plain files]
  cases fileRefusal? p name with
  | some e => rfl
  | none =>
      simp only [bind, Except.bind, FileNode.at?_concat leads.holds, setAt,
        FileNode.set_concat leads.holds]
      cases found : entries.lookup name with
      | none => rfl
      | some node =>
          obtain ⟨old, modified, rfl⟩ := files.lookup found
          rfl

/-- A file takes the name of another one in its folder, which may be spelled in two ways. -/
theorem rename?_file {node : FileNode} {source : FileName} (leads : LeadsTo tree p place entries)
    (sibling : LeadsTo tree q place entries) (files : OnlyFiles entries) (brief : IsPlain source)
    (plain : IsPlain name) (present : entries.lookup source = some node)
    : tree.rename? (q.join ⟨source⟩) (p.join ⟨name⟩)
      = match fileRefusal? q source, fileRefusal? p name with
        | some e, _ => .error e
        | none, some e => .error e
        | none, none =>
            .ok (tree.fill place
              (FileNode.setEntry name node (entries.filter (·.1 != source)))) := by
  obtain ⟨_, whole, noDots, noSlash⟩ := ends_join leads.nonempty plain
  rw [rename?, sibling.find?_file brief files, whole, leads.place?_file plain files, noDots,
    noSlash, present]
  cases fileRefusal? q source with
  | some e => rfl
  | none =>
      cases fileRefusal? p name with
      | some e => rfl
      | none =>
          have erased : (tree.root.erase (place ++ [source])).set node (place ++ [name])
              = tree.root.set (.folder
                  (FileNode.setEntry name node (entries.filter (·.1 != source)))) place := by
            rw [FileNode.erase_concat leads.holds,
              FileNode.set_concat (FileNode.at?_set_self leads.holds),
              FileNode.set_set leads.holds]
          simp only [bind, Except.bind, FileNode.at?_concat leads.holds, erased]
          cases found : entries.lookup name with
          | none => rfl
          | some node =>
              obtain ⟨old, modified, rfl⟩ := files.lookup found
              rfl

end LeadsTo

/-- A file that is written beside others and renamed is a new entry, and leaves no other trace. -/
theorem writeBeside?_file (bare : LeadsTo tree p place []) (sibling : LeadsTo tree q place [])
    (plain : IsPlain name) (files : OnlyFiles entries)
    (free : entries.lookup (temporaryName name) = none) (contents : ByteArray) (now : Int)
    : (∃ e, (tree.fill place entries).writeBeside? q (p.join ⟨name⟩) contents now = .error e)
      ∨ fileRefusal? p name = none
        ∧ (tree.fill place entries).writeBeside? q (p.join ⟨name⟩) contents now
          = .ok (tree.fill place (FileNode.setEntry name (.file contents now) entries)) := by
  have brief := plain_temporaryName plain
  -- Between writing and renaming, the folder has the temporary file as well.
  let between := FileNode.setEntry (temporaryName name) (.file contents now) entries
  have filled : OnlyFiles between := files.setEntry (temporaryName name) contents now
  have present : between.lookup (temporaryName name) = some (.file contents now) := by
    rw [FileNode.lookup_setEntry, if_pos rfl]
  have others : between.filter (·.1 != temporaryName name) = entries := by
    rw [FileNode.filter_setEntry, FileNode.filter_ne_of_lookup free]
  have written := (sibling.fill entries).write?_file brief files contents now
  have renamed := (bare.fill between).rename?_file (sibling.fill between) filled brief plain present
  rw [fill_fill bare] at written renamed
  rw [others] at renamed
  rw [writeBeside?, (ends_join bare.nonempty plain).1]
  simp only [written]
  cases spelled : fileRefusal? q (temporaryName name) with
  | some e => exact .inl ⟨e, rfl⟩
  | none =>
      simp only [spelled] at renamed
      cases fits : fileRefusal? p name with
      | some e => exact .inl ⟨e, renamed.trans (by rw [fits])⟩
      | none => exact .inr ⟨rfl, renamed.trans (by rw [fits])⟩

/-- Replacing a file in a folder gives the folder the new file, or changes nothing. -/
theorem replace_file (bare : LeadsTo tree p place []) (plain : IsPlain name)
    (files : OnlyFiles entries) (free : entries.lookup (temporaryName name) = none)
    (contents : ByteArray) (now : Int)
    : (∃ e, (tree.fill place entries).replace (p.join ⟨name⟩) contents now
        = (.error e, tree.fill place entries))
      ∨ fileRefusal? p name = none
        ∧ (tree.fill place entries).replace (p.join ⟨name⟩) contents now
          = (.ok (), tree.fill place (FileNode.setEntry name (.file contents now) entries)) := by
  obtain ⟨folder, parent, sibling⟩ := folderOf?_join bare plain
  obtain ⟨outcome, made, _⟩ := (sibling.fill entries).makeFolders_eq
  rw [replace, parent]
  simp only [made]
  cases outcome with
  | error e => exact .inl ⟨e, rfl⟩
  | ok =>
      have outcome := writeBeside?_file bare sibling plain files free contents now
      rcases outcome with ⟨e, failed⟩ | ⟨fits, written⟩
      · exact .inl ⟨e, by simp only [failed]⟩
      · exact .inr ⟨fits, by simp only [written]⟩

end FileTree

end EarlyBreak
