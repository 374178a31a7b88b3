import EarlyBreak.Url.File

/-! The texts that name scripts and source files, and their canonical forms.  A script URL and
the path of its file get the same canonical text.
-/

namespace EarlyBreak.ScriptUrl

/-- The path of a `file:` URL; any other text has none. -/
def filePath? (url : String) : Option Path :=
  if Text.sameIgnoringAsciiCase (url.toList.take 5) "file:".toList then
    (Url.parse? url).bind Url.toPath?
  else none

/-- The `file:` URL of an absolute path. -/
def ofPath? (p : Path) : Option String := (Url.ofPath? p).map Url.text

/-- Whether a text starts with a URL scheme.  A single letter is a drive and no scheme. -/
def hasScheme (s : List Char) : Bool :=
  match Text.splitFirst ':' s with
  | (first :: second :: more, some _) =>
      Text.isAsciiLetter first && (second :: more).all Url.isSchemeChar
  | _ => false

/-- Slashes for backslashes, and a leading drive letter in lower case. -/
def forwardSlashes (s : List Char) : List Char :=
  match s.map fun c => if c = '\\' then '/' else c with
  | letter :: ':' :: rest =>
      (if Text.isAsciiLetter letter then Text.lowerAscii letter else letter) :: ':' :: rest
  | slashed => slashed

/-- The text with its case folded where the file system ignores case, which none here does. -/
def foldCase (s : String) : String := s

/-- The form in which script URLs and requested source paths are compared: `file:` URLs become
paths, and slashes and drives are made uniform.
-/
def canonical (url : String) : String :=
  let path := match filePath? url with
    | some p => p.text
    | none => url
  foldCase (String.ofList (forwardSlashes path.toList))

/-- The key a source file is indexed under: its normal form with uniform slashes. -/
def sourceKey (p : Path) : String :=
  foldCase (String.ofList (forwardSlashes p.normalize.text.toList))

end EarlyBreak.ScriptUrl
