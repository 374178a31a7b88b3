import EarlyBreak.Regex
import EarlyBreak.Text.Cut

/-! Entry patterns: which script URLs a guard for a source file has to stop in.  Files with the
same stem share a pattern, whatever their directories and extensions.
-/

namespace EarlyBreak.Entry

/-- What follows the last slash or backslash of a URL. -/
def baseName (url : List Char) : List Char :=
  (url.reverse.takeWhile fun c => c != '/' && c != '\\').reverse

/-- The base name of a URL without its extension.  A dot in front starts no extension. -/
def stem (url : List Char) : List Char :=
  let name := baseName url
  match Text.splitLast? '.' name with
  | some (before, _) => if before.isEmpty then name else before
  | none => name

/-- The expression for names with a stem: the stem as a whole path segment, followed by nothing
or by a character that is no letter or digit.
-/
def expression (stem : List Char) : Regex :=
  .sequence (.either .start (.sequence (.many .dot) (.one (.among ['\\', '/']))))
    (.sequence (.literal stem)
      (.sequence (.optional (.sequence (.one .notAlphanumeric) (.many .dot))) .finish))

/-- The pattern a URL is guarded by, as the engine gets it. -/
def pattern (url : String) : String := String.ofList (expression (stem url.toList)).render

end EarlyBreak.Entry
