import EarlyBreak.FileTree.Access
import EarlyBreak.OutFiles.Comment
import EarlyBreak.OutFiles.Matcher
import EarlyBreak.SourceMap.Loader

/-! Finding the compiled files below a folder.  Links are not followed, save at the root itself. -/

namespace EarlyBreak.OutFiles

/-- The names of a path below the root as a text with slashes. -/
def relativeText (names : Place) : String :=
  let text := Text.ofBytesLossy ([Path.slash].intercalate names)
  String.ofList (text.toList.map fun c => if c = '\\' then '/' else c)

mutual

/-- The matching files at or below a node, by their names below the root. -/
def filesAt (out : OutFiles) (names : Place) : FileNode → List Place
  | .file _ _ => if out.isMatch (relativeText names) then [names] else []
  | .link _ => []
  | .folder entries =>
      if out.skips (relativeText names) then [] else filesAmong out names entries

/-- The matching files at or below the entries of a folder. -/
def filesAmong (out : OutFiles) (names : Place) : List (FileName × FileNode) → List Place
  | [] => []
  | (name, node) :: rest => filesAt out (names ++ [name]) node ++ filesAmong out names rest

end

/-- The byte that ends a line. -/
def lineEnd : UInt8 := 0x0A

/-- The map URL that a line declares.  Bytes that are not UTF-8 hide no comment behind them. -/
def declaredBy? (line : List UInt8) : Option String := declaredMap? (Text.ofBytesLossy line)

/-- The map URL that the lines up to one declare: that of the line itself, if it declares one. -/
def afterLine (declared : Option String) (line : List UInt8) : Option String :=
  (declaredBy? line).or declared

/-- Reads a file to its end, line by line and each line with its end.  `held` has the bytes of the
line so far, the last one first, and `declared` what the lines before it declare.
-/
def readDeclaration (declared : Option String) (held : List UInt8) : List UInt8 → Option String
  | [] => if held = [] then declared else afterLine declared held.reverse
  | byte :: rest =>
      if byte = lineEnd then readDeclaration (afterLine declared (byte :: held).reverse) [] rest
      else readDeclaration declared (byte :: held) rest

/-- The map URL that a file declares: that of its last line that declares one. -/
def lastDeclaration? (contents : List UInt8) : Option String := readDeclaration none [] contents

/-- The URL of a declared map, seen from the file that declares it. -/
def mapUrl? (compiled : Path) (declared : String) : Option String :=
  if ScriptUrl.hasScheme declared.toList then some declared
  else do
    let base ← Url.ofPath? compiled
    return (← base.join? declared).text

/-- What is known of a compiled file; `none` if it declares no map. -/
def inspect? (tree : FileTree) (path : Path) : Except IoError (Option CompiledFile) := do
  let contents ← tree.read? path
  let modified ← tree.modified? path
  return do
    let declared ← lastDeclaration? contents.data.toList
    return ⟨path, ← mapUrl? path declared, modified⟩

/-- The node to walk from: a link at the root counts only if it leads to a folder. -/
def rootNode? (tree : FileTree) (base : Path) : Option FileNode :=
  match tree.ownNode? base with
  | .ok (.link _) => (tree.node? base).toOption.filter (·.isFolder)
  | .ok node => some node
  | .error _ => none

/-- The path of a file below a folder. -/
def pathBelow (base : Path) (names : Place) : Path :=
  names.foldl (fun path name => path.join ⟨name⟩) base

/-- The compiled files at or below a folder.  Files that cannot be read are passed over. -/
def scan (tree : FileTree) (base : Path) (out : OutFiles) : List CompiledFile :=
  match rootNode? tree base with
  | none => []
  | some node =>
      (filesAt out [] node).filterMap fun names =>
        match inspect? tree (pathBelow base names) with
        | .ok file => file
        | .error _ => none

end EarlyBreak.OutFiles
