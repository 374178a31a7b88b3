import EarlyBreak.FileTree.Basic

/-! Finding the place a path leads to.  Symbolic links are followed on the way, and `..` leaves
the folder that was reached.
-/

namespace EarlyBreak.FileTree

/-- The number of links that one path may lead through. -/
def maxLinks : Nat := 40

/-- The most bytes a name may have. -/
def maxNameLength : Nat := 255

/-- The number of bytes that no path may have. -/
def maxPathLength : Nat := 4096

/-- The pieces of a path between its slashes.  Empty pieces count for nothing, except that a
trailing one asks for a folder, as `.` does.
-/
def pathPieces (p : Path) : List FileName :=
  let pieces := p.bytes.splitOn Path.slash
  pieces.filter (· != []) ++ if pieces.getLast? = some [] then [Path.dotName] else []

/-- The place that the pieces lead to from a place.  The last piece may name nothing, which
leads to the place where it would be, if its folder exists.
-/
def walk (root : FileNode) (followLast : Bool) (links : Nat) (place : Place) :
    List FileName → Except IoError Place
  | [] => .ok place
  | piece :: rest =>
      match root.at? place with
      | some (.folder entries) =>
          if piece = Path.dotName then walk root followLast links place rest
          else if piece = Path.dotDotName then walk root followLast links place.dropLast rest
          else if maxNameLength < piece.length then .error .nameTooLong
          else
            match entries.lookup piece with
            | none => if rest = [] then .ok (place ++ [piece]) else .error .notFound
            | some (.link target) =>
                if rest = [] ∧ !followLast then .ok (place ++ [piece])
                else
                  match links with
                  | 0 => .error .tooManyLinks
                  | links + 1 =>
                      if target.bytes = [] then .error .notFound
                      else walk root followLast links (if target.isAbsolute then [] else place)
                        (pathPieces target ++ rest)
            | some _ => walk root followLast links (place ++ [piece]) rest
      | some _ => .error .notADirectory
      | none => .error .notFound
termination_by pieces => (links, pieces.length)

/-- The place a path leads to.  `followLast` says whether a link at its end is followed too. -/
def place? (tree : FileTree) (followLast : Bool) (p : Path) : Except IoError Place :=
  if p.bytes = [] then .error .notFound
  else if p.bytes.contains 0 then .error .zeroInName
  else if maxPathLength ≤ p.bytes.length then .error .nameTooLong
  else walk tree.root followLast maxLinks (if p.isAbsolute then [] else tree.current)
    (pathPieces p)

/-- The node a path leads to, and its place. -/
def find? (tree : FileTree) (followLast : Bool) (p : Path) :
    Except IoError (Place × FileNode) := do
  let place ← tree.place? followLast p
  match tree.root.at? place with
  | some node => return (place, node)
  | none => throw .notFound

/-- The node a path leads to through all links. -/
def node? (tree : FileTree) (p : Path) : Except IoError FileNode :=
  (tree.find? true p).map (·.2)

/-- The node a path names, which may be a link. -/
def ownNode? (tree : FileTree) (p : Path) : Except IoError FileNode :=
  (tree.find? false p).map (·.2)

end EarlyBreak.FileTree
