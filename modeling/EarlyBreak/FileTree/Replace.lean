import EarlyBreak.FileTree.Access

/-! Replacing the contents of a file at one stroke: the new contents are written beside it and take
its name.
-/

namespace EarlyBreak.FileTree

/-- The name of the file that is written first. -/
def temporaryName (name : FileName) : FileName := name ++ Text.toBytes ".tmp.1.0"

/-- The folder that the file of a path lies in. -/
def folderOf? (p : Path) : Option Path :=
  (parentPath? p).map fun parent => if parent.bytes = [] then ⟨Path.dotName⟩ else parent

/-- Writes a file in a folder under a temporary name and renames it. -/
def writeBeside? (tree : FileTree) (folder p : Path) (contents : ByteArray) (now : Int) :
    Except IoError FileTree := do
  match p.fileName? with
  | none => throw .noFileName
  | some name =>
      let temporary := folder.join ⟨temporaryName name⟩
      let written ← tree.write? temporary contents now
      written.rename? temporary p

/-- Replaces the contents of a file, or makes the file.  Folders that had to be made stay even if
the file cannot be written.
-/
def replace (tree : FileTree) (p : Path) (contents : ByteArray) (now : Int) :
    Except IoError Unit × FileTree :=
  match folderOf? p with
  | none => (.error .noParent, tree)
  | some folder =>
      match tree.makeFolders folder with
      | (.error e, prepared) => (.error e, prepared)
      | (.ok (), prepared) =>
          match prepared.writeBeside? folder p contents now with
          | .error e => (.error e, prepared)
          | .ok replaced => (.ok (), replaced)

end EarlyBreak.FileTree
