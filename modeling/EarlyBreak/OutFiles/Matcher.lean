import EarlyBreak.Glob.Matcher
import EarlyBreak.Glob.Parser
import EarlyBreak.Text.Cut
import EarlyBreak.Text.Quoted

/-! The patterns that say which files are compiled ones.  A pattern behind a `!` takes files away,
and one that ends in `/**` also keeps its folders from being walked.
-/

namespace EarlyBreak

namespace OutFiles

/-- A pattern without its `!`, and whether it had one. -/
def polarity (pattern : String) : Bool × List Char :=
  match pattern.toList with
  | '!' :: body => (true, body)
  | body => (false, body)

/-- A pattern that could not be read. -/
structure PatternError where
  /-- The pattern without its `!`. -/
  body : String
  /-- The text that was read. -/
  read : String
  fault : Glob.Fault
  deriving DecidableEq, Repr

/-- The text of what is wrong with the text that was read. -/
def PatternError.cause (e : PatternError) : String :=
  "error parsing glob '" ++ e.read ++ "': " ++ e.fault.message

/-- The text of an error. -/
def PatternError.message (e : PatternError) : String :=
  "invalid outFiles glob " ++ Text.quoted e.body ++ ": " ++ e.cause

/-- The text without any `./` in front. -/
def dropHere : List Char → List Char
  | '.' :: '/' :: rest => dropHere rest
  | s => s

/-- The form in which a pattern is read: slashes for backslashes, and no `./` in front. -/
def patternText (body : List Char) : List Char :=
  dropHere (body.map fun c => if c = '\\' then '/' else c)

/-- Reads a pattern without its `!`. -/
def readPattern (body : List Char) : Except PatternError Glob :=
  (Glob.parse (patternText body)).mapError fun fault =>
    ⟨String.ofList body, String.ofList (patternText body), fault⟩

end OutFiles

/-- Patterns that have been read. -/
structure OutFiles where
  included : List Glob
  excluded : List Glob
  /-- Patterns of folders in which every file is excluded. -/
  excludedFolders : List Glob

namespace OutFiles

/-- No patterns. -/
def empty : OutFiles := ⟨[], [], []⟩

/-- Adds a pattern. -/
def add (out : OutFiles) (pattern : String) : Except PatternError OutFiles := do
  match polarity pattern with
  | (false, body) => return { out with included := out.included ++ [← readPattern body] }
  | (true, body) =>
      let excluded := out.excluded ++ [← readPattern body]
      match Text.dropEnd? "/**".toList body with
      | none => return { out with excluded }
      | some folder =>
          return { out with
            excluded, excludedFolders := out.excludedFolders ++ [← readPattern folder] }

/-- Reads a list of patterns.  It is taken for granted that patterns which can be read one by one
can be compiled together: only patterns of megabytes are too large for that.
-/
def ofPatterns (patterns : List String) : Except PatternError OutFiles :=
  patterns.foldlM add empty

/-- Whether a path below the root, with slashes, is that of a compiled file. -/
def isMatch (out : OutFiles) (relative : String) : Bool :=
  out.included.any (·.isMatch relative) && !out.excluded.any (·.isMatch relative)

/-- Whether a folder below the root, with slashes, need not be walked. -/
def skips (out : OutFiles) (relative : String) : Bool :=
  !relative.isEmpty && out.excludedFolders.any (·.isMatch relative)

end OutFiles

end EarlyBreak
