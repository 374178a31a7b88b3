import EarlyBreak.Proofs.FileTree.Places
import EarlyBreak.Proofs.FileTree.Steps

/-! Walks that reach a node.  They reach it again when the tree keeps what it has, when dots are
added or left out on the way, and as the first part of a longer walk.
-/

namespace EarlyBreak.FileTree

open EarlyBreak.Path (dotName dotDotName)

/-- A walk reaches a node, with all links followed. -/
inductive Reaches (root : FileNode) : Nat → Place → List FileName → Place → Prop where
  | here {links place found}
      : root.at? place = some found → Reaches root links place [] place
  | dot {links place entries rest target}
      : root.at? place = some (.folder entries)
        → Reaches root links place rest target
        → Reaches root links place (dotName :: rest) target
  | up {links place entries rest target}
      : root.at? place = some (.folder entries)
        → Reaches root links place.dropLast rest target
        → Reaches root links place (dotDotName :: rest) target
  | follow {links place entries piece rest path target}
      : root.at? place = some (.folder entries)
        → piece ≠ dotName → piece ≠ dotDotName → piece.length ≤ maxNameLength
        → entries.lookup piece = some (.link path) → path.bytes ≠ []
        → Reaches root links (if path.isAbsolute then [] else place) (pathPieces path ++ rest)
            target
        → Reaches root (links + 1) place (piece :: rest) target
  | enter {links place entries piece rest node target}
      : root.at? place = some (.folder entries)
        → piece ≠ dotName → piece ≠ dotDotName → piece.length ≤ maxNameLength
        → entries.lookup piece = some node → (∀ path, node ≠ .link path)
        → Reaches root links (place ++ [piece]) rest target
        → Reaches root links place (piece :: rest) target

variable {root later found : FileNode} {links : Nat} {place target : Place}
  {pieces others : List FileName} {entries : List (FileName × FileNode)}

/-- What a walk finds is reached by the pieces, by the cases of one step. -/
theorem reaches_of_walk (walked : walk root true links place pieces = .ok target)
    (holds : root.at? target = some found)
    : Reaches root links place pieces target := by
  revert walked
  fun_induction walk root true links place pieces with
  | case1 links place =>
      rintro ⟨⟩
      exact .here holds
  | case2 links place rest entries folder ih => exact fun walked => .dot folder (ih walked)
  | case3 links place rest entries folder _ ih => exact fun walked => .up folder (ih walked)
  | case5 links place piece entries folder _ _ _ missing =>
      rintro ⟨⟩
      rw [FileNode.at?_concat folder, missing] at holds
      cases holds
  | case7 links place piece rest entries folder _ _ _ path _ last => simp at last
  | case10 place piece rest entries folder noDot noDots fits path linked _ left named ih =>
      exact fun walked => .follow folder noDot noDots (Nat.not_lt.mp fits) linked named
        (by simpa using ih walked)
  | case11 links place piece rest entries folder noDot noDots fits node noLink entry ih =>
      exact fun walked => .enter folder noDot noDots (Nat.not_lt.mp fits) entry noLink (ih walked)
  | case4 | case6 | case8 | case9 | case12 | case13 => exact nofun

section Pieces

variable {followLast : Bool} {piece : FileName} {rest : List FileName} {node : FileNode}
  {path : Path}

theorem walk_dot (folder : root.at? place = some (.folder entries))
    : walk root followLast links place (dotName :: rest)
      = walk root followLast links place rest := by
  rw [walk, folder]
  simp

theorem walk_up (folder : root.at? place = some (.folder entries))
    : walk root followLast links place (dotDotName :: rest)
      = walk root followLast links place.dropLast rest := by
  rw [walk, folder]
  simp [show dotDotName ≠ dotName by decide]

/-- A link is followed with one link less to go. -/
theorem walk_follow (folder : root.at? place = some (.folder entries)) (noDot : piece ≠ dotName)
    (noDots : piece ≠ dotDotName) (fits : piece.length ≤ maxNameLength)
    (linked : entries.lookup piece = some (.link path)) (named : path.bytes ≠ [])
    (goesOn : rest = [] → followLast = true)
    : walk root followLast (links + 1) place (piece :: rest)
      = walk root followLast links (if path.isAbsolute then [] else place)
          (pathPieces path ++ rest) := by
  rw [walk, folder]
  simp only [noDot, noDots, Nat.not_lt.mpr fits, linked, named, if_false]
  by_cases last : rest = [] <;> simp [last, goesOn]

/-- An entry that is no link is entered. -/
theorem walk_enter (folder : root.at? place = some (.folder entries)) (noDot : piece ≠ dotName)
    (noDots : piece ≠ dotDotName) (fits : piece.length ≤ maxNameLength)
    (entry : entries.lookup piece = some node) (noLink : ∀ path, node ≠ .link path)
    : walk root followLast links place (piece :: rest)
      = walk root followLast links (place ++ [piece]) rest := by
  rw [walk, folder]
  cases node with
  | link path => exact absurd rfl (noLink path)
  | file contents modified | folder entries => simp [noDot, noDots, Nat.not_lt.mpr fits, entry]

/-- A link at the end of a walk is its end if it is not to be followed. -/
theorem walk_link (folder : root.at? place = some (.folder entries)) (noDot : piece ≠ dotName)
    (noDots : piece ≠ dotDotName) (fits : piece.length ≤ maxNameLength)
    (linked : entries.lookup piece = some (.link path))
    : walk root false links place [piece] = .ok (place ++ [piece]) := by
  rw [walk, folder]
  simp [noDot, noDots, Nat.not_lt.mpr fits, linked]

end Pieces

namespace Reaches

/-- What the pieces reach is found by a walk, by induction on how it is reached. -/
theorem walk_eq (reaches : Reaches root links place pieces target)
    : walk root true links place pieces = .ok target := by
  induction reaches with
  | here => rw [walk]
  | dot folder _ ih => rwa [walk_dot folder]
  | up folder _ ih => rwa [walk_up folder]
  | follow folder noDot noDots fits linked named _ ih =>
      rwa [walk_follow folder noDot noDots fits linked named fun _ => rfl]
  | enter folder noDot noDots fits entry noLink _ ih =>
      rwa [walk_enter folder noDot noDots fits entry noLink]

/-- A walk to a folder starts in one. -/
theorem starts (reaches : Reaches root links place pieces target)
    (folder : root.at? target = some (.folder entries))
    : ∃ entries, root.at? place = some (.folder entries) := by
  cases reaches with
  | here => exact ⟨entries, folder⟩
  | dot here | up here | follow here | enter here => exact ⟨_, here⟩

/-- A folder can still be reached in a tree that keeps what is no file: no walk goes through one. -/
theorem keeps (reaches : Reaches root links place pieces target)
    (folder : root.at? target = some (.folder entries)) (kept : root.KeepsWays later)
    : Reaches later links place pieces target := by
  -- A folder on the way is a folder again, and what was no file in it is in it now.
  have folderOf {place entries} (folder : root.at? place = some (.folder entries))
      : ∃ now, later.at? place = some (.folder now) := by
    obtain ⟨now, holds, alike⟩ := kept folder rfl
    cases now with
    | folder now => exact ⟨now, holds⟩
    | file contents modified | link path => cases alike
  have entryOf {place entries now piece node} (folder : root.at? place = some (.folder entries))
      (still : later.at? place = some (.folder now)) (entry : entries.lookup piece = some node)
      (noFile : node.isFile = false)
      : ∃ other, now.lookup piece = some other ∧ node.Alike other := by
    obtain ⟨other, holds, alike⟩ := kept ((FileNode.at?_concat folder piece).trans entry) noFile
    exact ⟨other, (FileNode.at?_concat still piece).symm.trans holds, alike⟩
  induction reaches with
  | here =>
      obtain ⟨now, holds⟩ := folderOf folder
      exact .here holds
  | dot here _ ih =>
      obtain ⟨now, holds⟩ := folderOf here
      exact .dot holds (ih folder)
  | up here _ ih =>
      obtain ⟨now, holds⟩ := folderOf here
      exact .up holds (ih folder)
  | follow here noDot noDots fits linked named _ ih =>
      obtain ⟨now, holds⟩ := folderOf here
      obtain ⟨other, entry, alike⟩ := entryOf here holds linked rfl
      obtain rfl : FileNode.link _ = other := alike
      exact .follow holds noDot noDots fits entry named (ih folder)
  | enter here noDot noDots fits entry noLink goesOn ih =>
      obtain ⟨now, holds⟩ := folderOf here
      -- The walk goes on to a folder, so what it enters is one.
      obtain ⟨below, there⟩ := goesOn.starts folder
      rw [FileNode.at?_concat here, entry] at there
      obtain rfl := Option.some.inj there
      obtain ⟨other, entry, alike⟩ := entryOf here holds entry rfl
      refine .enter holds noDot noDots fits entry ?_ (ih folder)
      rintro path rfl
      cases alike

/-- Dots in front of a walk change nothing. -/
theorem prepend {front : List FileName} (folder : root.at? place = some (.folder entries))
    (dots : ∀ piece ∈ front, piece = dotName) (reaches : Reaches root links place pieces target)
    : Reaches root links place (front ++ pieces) target := by
  induction front with
  | nil => exact reaches
  | cons first rest ih =>
      obtain rfl := dots first List.mem_cons_self
      exact .dot folder (ih fun piece member => dots piece (List.mem_cons_of_mem _ member))

/-- A walk to a folder may have other dots on the way. -/
theorem of_same_steps (reaches : Reaches root links place pieces target)
    (folder : root.at? target = some (.folder entries))
    (same : others.filter (· != dotName) = pieces.filter (· != dotName))
    : Reaches root links place others target := by
  -- In front of the first proper piece there are only dots.
  have front {others : List FileName} {piece rest}
      (same : others.filter (· != dotName) = (piece :: rest).filter (· != dotName))
      (noDot : piece ≠ dotName)
      : ∃ front others', others = front ++ piece :: others'
        ∧ (∀ piece ∈ front, piece = dotName)
        ∧ others'.filter (· != dotName) = rest.filter (· != dotName) := by
    rw [List.filter_cons_of_pos (by simpa using noDot)] at same
    obtain ⟨front, rest', rfl, dots, _, others⟩ := List.filter_eq_cons_iff.mp same
    exact ⟨front, rest', rfl, fun piece member => by simpa using dots piece member, others⟩
  induction reaches generalizing others with
  | here holds =>
      have dots : ∀ piece ∈ others, piece = dotName := by
        simpa [List.filter_eq_nil_iff] using same
      simpa using prepend folder dots (.here holds)
  | dot _ _ ih => exact ih folder (by simpa using same)
  | up above _ ih =>
      obtain ⟨front, rest, rfl, dots, same⟩ := front same (by decide)
      exact prepend above dots (.up above (ih folder same))
  | follow above noDot noDots fits linked named _ ih =>
      obtain ⟨front, rest, rfl, dots, same⟩ := front same noDot
      refine prepend above dots (.follow above noDot noDots fits linked named (ih folder ?_))
      rw [List.filter_append, List.filter_append, same]
  | enter above noDot noDots fits entry noLink _ ih =>
      obtain ⟨front, rest, rfl, dots, same⟩ := front same noDot
      exact prepend above dots (.enter above noDot noDots fits entry noLink (ih folder same))

/-- A longer walk goes on where its first part leads to. -/
theorem walk_append (reaches : Reaches root links place pieces target) (more : others ≠ [])
    (followLast : Bool)
    : ∃ left, walk root followLast links place (pieces ++ others)
        = walk root followLast left target others := by
  induction reaches with
  | here => exact ⟨_, rfl⟩
  | dot folder _ ih =>
      obtain ⟨left, same⟩ := ih
      exact ⟨left, (walk_dot folder).trans same⟩
  | up folder _ ih =>
      obtain ⟨left, same⟩ := ih
      exact ⟨left, (walk_up folder).trans same⟩
  | follow folder noDot noDots fits linked named _ ih =>
      obtain ⟨left, same⟩ := ih
      refine ⟨left, ?_⟩
      rw [← same, List.append_assoc]
      exact walk_follow folder noDot noDots fits linked named (by simp [more])
  | enter folder noDot noDots fits entry noLink _ ih =>
      obtain ⟨left, same⟩ := ih
      exact ⟨left, (walk_enter folder noDot noDots fits entry noLink).trans same⟩

/-- Where a link at the end is not followed, the walk reaches a node, too. -/
theorem walk_own (reaches : Reaches root links place pieces target)
    : ∃ own found, walk root false links place pieces = .ok own ∧ root.at? own = some found := by
  induction reaches with
  | here holds => exact ⟨_, _, by rw [walk], holds⟩
  | dot folder _ ih => rwa [walk_dot folder]
  | up folder _ ih => rwa [walk_up folder]
  | @follow _ _ _ piece rest _ _ folder noDot noDots fits linked named _ ih =>
      by_cases last : rest = []
      · subst rest
        exact ⟨_, _, walk_link folder noDot noDots fits linked,
          (FileNode.at?_concat folder piece).trans linked⟩
      · rwa [walk_follow folder noDot noDots fits linked named fun ends => absurd ends last]
  | enter folder noDot noDots fits entry noLink _ ih =>
      rwa [walk_enter folder noDot noDots fits entry noLink]

end Reaches

end EarlyBreak.FileTree
