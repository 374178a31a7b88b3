import EarlyBreak.Lexicographic
import EarlyBreak.ScriptUrl

/-! Rules that give the source URLs of maps paths in the workspace. -/

namespace EarlyBreak

/-- A rule that redirects URLs.  A `*` in the key matches any text, which then stands for the `*`
of the value.
-/
structure PathOverride where
  key : String
  value : String
  deriving DecidableEq, Repr

namespace PathOverride

/-- The variable that stands for the root of the workspace. -/
def rootVariable : List Char := "$\x7bworkspaceFolder\x7d".toList

/-- The text of the root with slashes and without a trailing one. -/
def rootText (root : Path) : List Char :=
  Text.trimEnd (· == '/') (root.text.toList.map fun c => if c = '\\' then '/' else c)

/-- The rule with the root in place of its variable. -/
def expand (root : Path) (rule : PathOverride) : PathOverride :=
  { rule with
    value := String.ofList (Text.replaceAll rootVariable (rootText root) rule.value.toList) }

/-- The bytes of the key in front of its `*`. -/
def reach (rule : PathOverride) : Nat :=
  (Text.toBytes (String.ofList (Text.splitFirst '*' rule.key.toList).1)).length

/-- The bytes of the key as numbers, by which rules of one reach are ordered. -/
def keyBytes (rule : PathOverride) : List Nat := (Text.toBytes rule.key).map UInt8.toNat

/-- Whether a rule is tried before another: the one with the longer reach. -/
def precedes (a b : PathOverride) : Bool :=
  if a.reach = b.reach then Lexicographic.atMost a.keyBytes b.keyBytes
  else decide (b.reach < a.reach)

/-- The text that the `*` of a pattern matches in a URL.  A pattern without one matches only
itself.
-/
def captured? (pattern url : List Char) : Option (List Char) :=
  match Text.splitFirst '*' pattern with
  | (head, some tail) => (Text.dropStart? head url).bind (Text.dropEnd? tail)
  | (whole, none) => if whole = url then some [] else none

/-- A text with its first `*` replaced. -/
def fill (value captured : List Char) : List Char :=
  match Text.splitFirst '*' value with
  | (head, some tail) => head ++ captured ++ tail
  | (whole, none) => whole

/-- The path that a rule redirects a URL to. -/
def target? (rule : PathOverride) (url : String) : Option Path :=
  (captured? rule.key.toList url.toList).map fun captured =>
    (Path.ofString (String.ofList (fill rule.value.toList captured))).normalize

/-- The rules in the order in which they are tried. -/
def arrange (root : Path) (rules : List PathOverride) : List PathOverride :=
  (rules.map (expand root)).mergeSort precedes

end PathOverride

/-- How the source URLs of maps become paths in the workspace. -/
inductive SourceResolver where
  /-- Only `file:` URLs have a path. -/
  | fileUrls
  /-- Rules in the order in which they are tried; `file:` URLs if none matches. -/
  | overrides (rules : List PathOverride)
  deriving Repr

namespace SourceResolver

/-- The resolver that applies rules in a workspace. -/
def ofOverrides (root : Path) (rules : List PathOverride) : SourceResolver :=
  .overrides (PathOverride.arrange root rules)

/-- The path that the first matching rule redirects a URL to. -/
def redirect? (resolver : SourceResolver) (url : String) : Option Path :=
  match resolver with
  | .fileUrls => none
  | .overrides rules => rules.findSome? (·.target? url)

/-- The path of a source URL. -/
def resolve? (resolver : SourceResolver) (url : String) : Option Path :=
  (resolver.redirect? url).or (ScriptUrl.filePath? url)

end SourceResolver

end EarlyBreak
