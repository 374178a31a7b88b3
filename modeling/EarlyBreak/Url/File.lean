import EarlyBreak.Path
import EarlyBreak.Url.Parser

/-! Paths as file URLs and back.  Each component is escaped on its own, and each segment is
decoded on its own.
-/

namespace EarlyBreak.Url

/-- The URL path of a list of path components, the root aside. -/
def pathOfComponents (components : List Path.Component) : List Char :=
  match components with
  | [] => ['/']
  | components => components.flatMap fun component =>
      '/' :: encodeBytes .fileName component.bytes

/-- The file URL of an absolute path; a relative path has none. -/
def ofPath? (p : Path) : Option Url :=
  if p.isAbsolute then
    some {
      scheme := fileScheme
      authority := some ⟨[], none, none⟩
      path := pathOfComponents (p.components.drop 1)
      query := none
      fragment := none }
  else none

/-- Whether bytes end like a drive, in a letter and a colon or bar, with something before. -/
def endsLikeDrive (bytes : List UInt8) : Bool :=
  match bytes.reverse with
  | mark :: letter :: _ :: _ =>
      Text.isAsciiLetter (Char.ofNat letter.toNat) && (mark == byteOf ':' || mark == byteOf '|')
  | _ => false

/-- The path a URL with no host, or with the local one, points to.  A path that ends like a
drive gets a closing slash.
-/
def toPath? (url : Url) : Option Path :=
  let isLocal : Bool := url.host?.all (· == .name localhost)
  match url.path with
  | '/' :: segments =>
      if isLocal then
        let bytes := (segments.splitOn '/').flatMap fun segment =>
          Path.slash :: decodeBytes (Text.toBytes (String.ofList segment))
        some ⟨if endsLikeDrive bytes then bytes ++ [Path.slash] else bytes⟩
      else none
  | _ => none

end EarlyBreak.Url
