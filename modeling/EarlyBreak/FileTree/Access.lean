import EarlyBreak.FileTree.Resolve

/-! Reading and changing a file tree through paths. -/

namespace EarlyBreak.FileTree

/-- The contents of a file. -/
def read? (tree : FileTree) (p : Path) : Except IoError ByteArray := do
  match ← tree.node? p with
  | .file contents _ => return contents
  | _ => throw .isADirectory

/-- The contents of a file as a text. -/
def readText? (tree : FileTree) (p : Path) : Except IoError String := do
  match String.fromUTF8? (← tree.read? p) with
  | some text => return text
  | none => throw .notText

/-- The names in a folder. -/
def names? (tree : FileTree) (p : Path) : Except IoError (List FileName) := do
  match ← tree.node? p with
  | .folder entries => return entries.map (·.1)
  | _ => throw .notADirectory

/-- Whether a path leads to a folder. -/
def isFolder (tree : FileTree) (p : Path) : Bool :=
  match tree.node? p with
  | .ok node => node.isFolder
  | .error _ => false

/-- Milliseconds since the epoch at which a file was last changed; none before the epoch.  Only
regular files have a time of their own.
-/
def modified? (tree : FileTree) (p : Path) : Except IoError Nat := do
  match ← tree.node? p with
  | .file _ modified => return modified.toNat
  | _ => return 0

/-- The tree with the node at a place set. -/
def setAt (tree : FileTree) (place : Place) (node : FileNode) : FileTree :=
  { tree with root := tree.root.set node place }

/-- The tree with a file written, where its folder exists. -/
def write? (tree : FileTree) (p : Path) (contents : ByteArray) (modified : Int) :
    Except IoError FileTree := do
  let place ← tree.place? true p
  match tree.root.at? place with
  | some (.folder _) => throw .isADirectory
  | _ => return tree.setAt place (.file contents modified)

/-- The tree without a file or link. -/
def remove? (tree : FileTree) (p : Path) : Except IoError FileTree := do
  match ← tree.find? false p with
  | (_, .folder _) => throw .isADirectory
  | (place, _) => return { tree with root := tree.root.erase place }

/-- The tree without a folder and all below it. -/
def removeFolder? (tree : FileTree) (p : Path) : Except IoError FileTree := do
  match ← tree.find? false p with
  | (place, .folder _) => return { tree with root := tree.root.erase place }
  | _ => throw .notADirectory

/-- Whether a path ends in a slash after some name. -/
def asksForFolder (p : Path) : Bool :=
  decide (1 < p.bytes.length) && p.bytes.getLast? == some Path.slash

/-- A path without the slashes at its end.  Those of the root stay. -/
def withoutEndSlashes (p : Path) : Path :=
  match p.bytes.reverse.dropWhile (· == Path.slash) with
  | [] => p
  | kept => ⟨kept.reverse⟩

/-- Whether the last piece of a path is `.` or `..`, which no file can be called. -/
def endsInDots (p : Path) : Bool :=
  match ((withoutEndSlashes p).bytes.splitOn Path.slash).getLast? with
  | some piece => piece == Path.dotName || piece == Path.dotDotName
  | none => false

/-- The tree with a folder made, unless something has its name. -/
def makeFolder? (tree : FileTree) (p : Path) : Except IoError FileTree := do
  let place ← tree.place? false (withoutEndSlashes p)
  match tree.root.at? place with
  | some _ => throw .exists
  | none => return tree.setAt place (.folder [])

/-- The path above a path, if it has one: all but its last component. -/
def parentPath? (p : Path) : Option Path :=
  match p.components.reverse with
  | [] | .root :: _ => none
  | _ :: above => some (Path.ofComponents above.reverse)

/-- Makes a folder and all above it where they are missing.  Those made above stay if one below
cannot be made.  `depth` bounds the number of folders to make.
-/
def makeFoldersFrom (tree : FileTree) : Nat → Path → Except IoError Unit × FileTree
  | 0, _ => (.error .notFound, tree)
  | depth + 1, p =>
      if p.bytes = [] then (.ok (), tree)
      else
        match tree.makeFolder? p with
        | .ok made => (.ok (), made)
        | .error .notFound =>
            match parentPath? p with
            | none => (.error .notFound, tree)
            | some parent =>
                match tree.makeFoldersFrom depth parent with
                | (.error e, above) => (.error e, above)
                | (.ok (), above) =>
                    match above.makeFolder? p with
                    | .ok made => (.ok (), made)
                    | .error e => (if above.isFolder p then .ok () else .error e, above)
        | .error e => (if tree.isFolder p then .ok () else .error e, tree)

/-- Makes a folder and all above it. -/
def makeFolders (tree : FileTree) (p : Path) : Except IoError Unit × FileTree :=
  tree.makeFoldersFrom (p.components.length + 1) p

/-- The tree with a file under another name, in place of the file or link that had it. -/
def rename? (tree : FileTree) (source target : Path) : Except IoError FileTree := do
  let (sourcePlace, node) ← tree.find? false source
  let targetPlace ← tree.place? false (withoutEndSlashes target)
  if endsInDots target then throw .busy
  if asksForFolder target then throw .notADirectory
  match tree.root.at? targetPlace with
  | some (.folder _) => throw .isADirectory
  | _ => return { tree with root := (tree.root.erase sourcePlace).set node targetPlace }

end EarlyBreak.FileTree
