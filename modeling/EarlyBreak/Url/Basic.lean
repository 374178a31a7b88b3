import EarlyBreak.Url.Host

/-! Parsed URLs and the text they are written as. -/

namespace EarlyBreak

/-- What stands between `//` and the path of a URL. -/
structure Url.Authority where
  /-- The escaped user name and password with their `@`; empty when the URL has neither. -/
  credentials : List Char
  /-- `none` is the empty host. -/
  host : Option Url.Host
  /-- `none` when the port is the default of the scheme. -/
  port : Option Nat
  deriving DecidableEq, Repr

/-- A URL in parts.  Every part holds the text that is written for it. -/
structure Url where
  scheme : List Char
  authority : Option Url.Authority
  path : List Char
  query : Option (List Char)
  fragment : Option (List Char)
  deriving DecidableEq, Repr

namespace Url

/-- The three families of schemes, which parse differently. -/
inductive Family where
  /-- The scheme `file`. -/
  | file
  /-- A scheme whose URLs always have a host. -/
  | hosted
  /-- Any other scheme. -/
  | other
  deriving DecidableEq, Repr

/-- The default ports of the hosted schemes. -/
def defaultPorts : List (List Char × Nat) :=
  [("http".toList, 80), ("https".toList, 443), ("ws".toList, 80), ("wss".toList, 443),
    ("ftp".toList, 21)]

/-- The scheme of file URLs. -/
def fileScheme : List Char := "file".toList

/-- The family of a scheme. -/
def Family.ofScheme (scheme : List Char) : Family :=
  if scheme = fileScheme then .file
  else if (defaultPorts.lookup scheme).isSome then .hosted
  else .other

/-- Whether a backslash counts as a slash: in file and hosted URLs. -/
def Family.isSpecial : Family → Bool
  | .file | .hosted => true
  | .other => false

/-- Whether a URL has no hierarchy to resolve against: neither an authority nor a leading slash. -/
def isOpaque (url : Url) : Bool := url.authority.isNone && url.path.head? != some '/'

/-- The text of an authority, with its leading slashes. -/
def Authority.render (a : Authority) : List Char :=
  ['/', '/'] ++ a.credentials ++ (a.host.elim [] Host.text)
    ++ a.port.elim [] fun n => ':' :: (toString n).toList

/-- The text of a URL.  A path that starts with two slashes is set off from the scheme by `/.`
when there is no authority, so that it is not read as one.
-/
def render (url : Url) : List Char :=
  url.scheme ++ [':']
    ++ (match url.authority with
      | some a => a.render
      | none => if ['/', '/'].isPrefixOf url.path then ['/', '.'] else [])
    ++ url.path
    ++ url.query.elim [] ('?' :: ·)
    ++ url.fragment.elim [] ('#' :: ·)

/-- The text of a URL as a string. -/
def text (url : Url) : String := String.ofList url.render

end Url

end EarlyBreak
