import EarlyBreak.Path

/-! A tree of files: folders, regular files with contents and modification times, and symbolic
links.  Places in the tree are lists of names from the root.
-/

namespace EarlyBreak

/-- Why an access to a file failed. -/
inductive IoError where
  | notFound
  /-- A `.` or `..` was to be replaced. -/
  | busy
  | exists
  | notADirectory
  | isADirectory
  | nameTooLong
  | notEmpty
  | tooManyLinks
  /-- The path holds a zero byte. -/
  | zeroInName
  /-- The contents are not UTF-8 where a text was asked for. -/
  | notText
  /-- A file was to be replaced by a path that lies in no folder. -/
  | noParent
  /-- A file was to be replaced by a path that ends in no name. -/
  | noFileName
  deriving DecidableEq, Repr

/-- The text of a failure. -/
def IoError.message : IoError → String
  | .notFound => "No such file or directory (os error 2)"
  | .busy => "Device or resource busy (os error 16)"
  | .exists => "File exists (os error 17)"
  | .notADirectory => "Not a directory (os error 20)"
  | .isADirectory => "Is a directory (os error 21)"
  | .nameTooLong => "File name too long (os error 36)"
  | .notEmpty => "Directory not empty (os error 39)"
  | .tooManyLinks => "Too many levels of symbolic links (os error 40)"
  | .zeroInName => "file name contained an unexpected NUL byte"
  | .notText => "stream did not contain valid UTF-8"
  | .noParent => "path has no parent"
  | .noFileName => "destination path has no file name"

/-- The name of an entry in a folder. -/
abbrev FileName := List UInt8

/-- A node of the tree. -/
inductive FileNode where
  /-- A regular file; its time is in milliseconds since the epoch, and may lie before it. -/
  | file (contents : ByteArray) (modified : Int)
  | link (target : Path)
  | folder (entries : List (FileName × FileNode))
  deriving Inhabited

/-- A place in the tree, as the names from the root. -/
abbrev Place := List FileName

namespace FileNode

/-- The entries of a folder; nothing else has any. -/
def entries : FileNode → List (FileName × FileNode)
  | folder entries => entries
  | _ => []

/-- Whether a node is a folder. -/
def isFolder : FileNode → Bool
  | folder _ => true
  | _ => false

/-- Whether a node is a regular file. -/
def isFile : FileNode → Bool
  | file _ _ => true
  | _ => false

/-- The entry of a folder with a name. -/
def entry? (node : FileNode) (name : FileName) : Option FileNode := node.entries.lookup name

/-- The node at a place below this one; links are not followed. -/
def at? (node : FileNode) : Place → Option FileNode
  | [] => some node
  | name :: rest => (node.entry? name).bind (at? · rest)

/-- The entries with one of them set, in its old position if it had one. -/
def setEntry (name : FileName) (node : FileNode) :
    List (FileName × FileNode) → List (FileName × FileNode)
  | [] => [(name, node)]
  | (other, old) :: rest =>
      if other = name then (name, node) :: rest else (other, old) :: setEntry name node rest

/-- The node with the one at a place set, where the folders on the way exist. -/
def set (node : FileNode) (new : FileNode) : Place → FileNode
  | [] => new
  | name :: rest =>
      match node with
      | folder entries =>
          match rest, entries.lookup name with
          | [], _ => folder (setEntry name new entries)
          | _, some child => folder (setEntry name (child.set new rest) entries)
          | _, none => node
      | _ => node

/-- The node without the one at a place. -/
def erase (node : FileNode) : Place → FileNode
  | [] => node
  | name :: rest =>
      match node with
      | folder entries =>
          match rest, entries.lookup name with
          | [], _ => folder (entries.filter (·.1 != name))
          | _, some child => folder (setEntry name (child.erase rest) entries)
          | _, none => node
      | _ => node

end FileNode

/-- A file system: its root and the folder that relative paths start from. -/
structure FileTree where
  root : FileNode
  current : Place
  deriving Inhabited

/-- The tree with an empty root. -/
def FileTree.empty : FileTree := ⟨.folder [], []⟩

end EarlyBreak
