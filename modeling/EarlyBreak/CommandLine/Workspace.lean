import EarlyBreak.FileTree.Access
import EarlyBreak.Path.Record

/-! The files that a command works on and the time, as a JSON record.  Text files are listed by
their paths; the folders that hold them come with them.
-/

namespace EarlyBreak.CommandLine

/-- A text file. -/
structure ListedFile where
  path : Path
  text : String
  /-- When the file was last changed, in milliseconds since the epoch. -/
  modified : Nat
  deriving DecidableEq, Repr

namespace ListedFile

/-- The keys of the record, in their order. -/
def keys : List String := ["path", "text", "modified"]

/-- Reads the record. -/
def ofJson? (value : Json) : Option ListedFile := do
  match ← value.fields? keys .refused with
  | [path, text, modified] =>
      return {
        path := ← Json.required? Path.ofJson? path
        text := ← Json.defaulted? "" Json.text? text
        modified := ← Json.defaulted? 0 Json.word64? modified }
  | _ => none

/-- A tree with the file in it. -/
def addTo (tree : FileTree) (file : ListedFile) : Except IoError FileTree := do
  let (made, tree) := match FileTree.parentPath? file.path with
    | some parent => tree.makeFolders parent
    | none => (.ok (), tree)
  made
  tree.write? file.path file.text.toUTF8 file.modified

end ListedFile

/-- The files that a command works on. -/
structure Workspace where
  tree : FileTree
  /-- Milliseconds since the epoch. -/
  now : Nat

namespace Workspace

/-- The keys of the record, in their order. -/
def keys : List String := ["now", "files"]

/-- Reads the record.  Relative paths start at the root of the tree. -/
def ofJson? (value : Json) : Option Workspace := do
  match ← value.fields? keys .refused with
  | [now, files] =>
      let now ← Json.defaulted? 0 Json.word64? now
      let files ← Json.defaulted? [] (Json.listOf? ListedFile.ofJson?) files
      return ⟨← (files.foldlM ListedFile.addTo FileTree.empty).toOption, now⟩
  | _ => none

/-- A workspace without files. -/
def empty : Workspace := ⟨.empty, 0⟩

end Workspace

end EarlyBreak.CommandLine
