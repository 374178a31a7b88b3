import EarlyBreak.FileTree.Basic
import EarlyBreak.Json.Reader
import EarlyBreak.Json.Record
import EarlyBreak.Lexicographic
import EarlyBreak.ScriptUrl
import EarlyBreak.SourceMap.Mappings

/-! Source maps: their JSON form, the URLs of their sources, and their mappings in the two orders
that lookups go by.
-/

namespace EarlyBreak

namespace SourceMap

/-- Why a source map could not be loaded. -/
inductive LoadError where
  | io (cause : IoError)
  /-- The text is no JSON, or not that of a source map. -/
  | json
  | unsupportedVersion (version : Nat)
  | indexed
  | mappings (cause : MappingError)
  | dataUrl
  | unsupportedUrl (url : String)
  deriving DecidableEq, Repr

/-- The text of an error.  A JSON error has none of its own. -/
def LoadError.message : LoadError → String
  | .io cause => "io error: " ++ cause.message
  | .json => "invalid source map json"
  | .unsupportedVersion version => "unsupported source map version " ++ toString version
  | .indexed => "indexed source maps (`sections`) are not supported"
  | .mappings cause =>
      "invalid mappings at segment " ++ toString cause.segment ++ ": " ++ cause.fault.message
  | .dataUrl => "invalid data url"
  | .unsupportedUrl url => "cannot load source map from " ++ url

/-- The source coordinates of a mapping, in the order that forward lookups compare them. -/
def Mapping.sourcePlace (m : Mapping) : List Nat := [m.source, m.sourceLine, m.sourceColumn]

/-- The generated coordinates of a mapping, in the order that backward lookups compare them. -/
def Mapping.generatedPlace (m : Mapping) : List Nat := [m.generatedLine, m.generatedColumn]

/-- All coordinates of a mapping, those in its source first. -/
def Mapping.places (m : Mapping) : List Nat := m.sourcePlace ++ m.generatedPlace

/-- The fields of a source map that matter here. -/
structure Document where
  version : Nat
  sourceRoot : Option String
  sources : List (Option String)
  mappings : String
  /-- Whether the map is one of sections. -/
  isIndexed : Bool

/-- The keys of a source map, in their order. -/
def Document.keys : List String := ["version", "sourceRoot", "sources", "mappings", "sections"]

/-- The nesting that a value inside a source map may have. -/
def sectionDepth : Nat := 126

/-- Reads the JSON form of a source map. -/
def Document.ofJson? (value : Json) : Option Document := do
  match ← value.fields? keys .ignored with
  | [version, sourceRoot, sources, mappings, sections] =>
      let held (part : Json) := if part.isHeld sectionDepth then some part else none
      return {
        version := ← Json.required? Json.word32? version
        sourceRoot := ← Json.optional? Json.text? sourceRoot
        sources := ← Json.defaulted? [] (Json.listOf? (Json.optional? Json.text? ∘ some)) sources
        mappings := ← Json.defaulted? "" Json.text? mappings
        isIndexed := (← Json.optional? held sections).isSome }
  | _ => none

/-- The file URL of a path that starts with a drive and a slash. -/
def driveUrl? (path : List Char) : Option (List Char) :=
  match path with
  | letter :: ':' :: slash :: _ =>
      if Text.isAsciiLetter letter && Url.isAnySlash slash then
        some ("file:///".toList ++ path.map fun c => if c = '\\' then '/' else c)
      else none
  | _ => none

/-- A source behind the root of its map.  Absolute sources stand for themselves. -/
def joinRoot (root : Option String) (source : List Char) : List Char :=
  let root := (root.getD "").toList
  if root.isEmpty || ScriptUrl.hasScheme source || source.head? == some '/' then source
  else Text.trimEnd (· == '/') root ++ '/' :: source

/-- The URL of a source: as it is written if that is a URL, else seen from the URL of the map. -/
def resolveSource (base : Option Url) (root : Option String) (source : String) : String :=
  let joined := joinRoot root source.toList
  if ScriptUrl.hasScheme joined then String.ofList joined
  else
    match driveUrl? joined with
    | some url => String.ofList url
    | none =>
        match base.bind (·.join? (String.ofList joined)) with
        | some url => url.text
        | none => String.ofList joined

end SourceMap

/-- A decoded source map. -/
structure SourceMap where
  /-- The URLs of the sources, by index. -/
  sources : List String
  /-- The mappings by position in the sources, then by generated position. -/
  bySource : List SourceMap.Mapping
  /-- The mappings by generated position, those at one position in the order of the map. -/
  byGenerated : List SourceMap.Mapping
  deriving Repr

namespace SourceMap

/-- The map of some sources and the mappings into them. -/
def ofMappings (sources : List String) (mappings : List Mapping) : SourceMap :=
  let retained := mappings.filter (·.source < sources.length)
  { sources
    bySource := retained.mergeSort fun a b => Lexicographic.atMost a.places b.places
    byGenerated :=
      retained.mergeSort fun a b => Lexicographic.atMost a.generatedPlace b.generatedPlace }

/-- The map that a document describes when it was loaded from a URL. -/
def ofDocument (document : Document) (base : Option Url) : Except LoadError SourceMap := do
  if document.isIndexed then throw .indexed
  if document.version ≠ 3 then throw (.unsupportedVersion document.version)
  match decodeMappings document.mappings.toList with
  | .error e => throw (.mappings e)
  | .ok mappings =>
      let sources := document.sources.map fun source =>
        resolveSource base document.sourceRoot (source.getD "")
      return ofMappings sources mappings

/-- The map that a JSON text describes when it was loaded from a URL. -/
def parse (json : String) (base : Option Url) : Except LoadError SourceMap :=
  match (Json.parse? json).bind Document.ofJson? with
  | none => .error .json
  | some document => ofDocument document base

end SourceMap

end EarlyBreak
