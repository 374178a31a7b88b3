import EarlyBreak.FileTree.Access
import EarlyBreak.SourceMap.DataUrl
import EarlyBreak.SourceMap.Lookup

/-! Loading the source maps of compiled files, and remembering what was loaded. -/

namespace EarlyBreak

/-- A compiled file that declares a source map. -/
structure CompiledFile where
  path : Path
  /-- The URL of the map. -/
  mapUrl : String
  /-- When the file was last changed, in milliseconds since the epoch. -/
  modified : Nat
  deriving DecidableEq, Repr

namespace SourceMap

/-- Loads the map of a compiled file: from its URL if that is a data URL, else from the file that
the URL names.
-/
def load (tree : FileTree) (file : CompiledFile) : Except LoadError SourceMap :=
  if isDataUrl file.mapUrl then
    match dataText? file.mapUrl with
    | none => .error .dataUrl
    | some json => parse json (Url.ofPath? file.path)
  else
    match ScriptUrl.filePath? file.mapUrl with
    | none => .error (.unsupportedUrl file.mapUrl)
    | some path =>
        match tree.readText? path with
        | .error e => .error (.io e)
        | .ok json => parse json (Url.parse? file.mapUrl)

/-- What was loaded so far, by compiled path and time of change.  Failures are remembered too. -/
structure Memo where
  entries : List (List Path.Component × Nat × Option SourceMap)

/-- A memo of nothing. -/
def Memo.empty : Memo := ⟨[]⟩

/-- What the memo knows of a compiled file. -/
def Memo.find? (memo : Memo) (file : CompiledFile) : Option (Option SourceMap) :=
  (memo.entries.find? fun (components, modified, _) =>
    components == file.path.components && modified == file.modified).map (·.2.2)

/-- Remembers what was loaded for a compiled file, in place of what was known of it. -/
def Memo.insert (memo : Memo) (file : CompiledFile) (loaded : Option SourceMap) : Memo :=
  ⟨(file.path.components, file.modified, loaded) :: memo.entries⟩

/-- Loads the map of a compiled file unless that was done before. -/
def Memo.load (memo : Memo) (tree : FileTree) (file : CompiledFile) :
    Option SourceMap × Memo :=
  match memo.find? file with
  | some known => (known, memo)
  | none =>
      let loaded := (SourceMap.load tree file).toOption
      (loaded, memo.insert file loaded)

end SourceMap

end EarlyBreak
