import EarlyBreak.OutFiles.Matcher
import EarlyBreak.Path

/-! Patterns seen from the root of the workspace. -/

namespace EarlyBreak

namespace Path

/-- Whether a piece of a path stands for no component. -/
def isIdle (piece : List UInt8) : Bool := piece == [] || piece == dotName

/-- The pieces after the first `count` that stand for components, and after any idle ones then. -/
def dropComponents : Nat → List (List UInt8) → List (List UInt8)
  | _, [] => []
  | count, piece :: rest =>
      if isIdle piece then dropComponents count rest
      else
        match count with
        | 0 => piece :: rest
        | count + 1 => dropComponents count rest

/-- The pieces without the idle ones at the end. -/
def dropIdleEnd (pieces : List (List UInt8)) : List (List UInt8) :=
  (pieces.reverse.dropWhile isIdle).reverse

/-- What is written after the first `count` components of an absolute path, without idle pieces
at the ends.
-/
def textAfter (p : Path) (count : Nat) : List UInt8 :=
  let pieces := (p.bytes.splitOn slash).tail
  match count with
  | 0 => slash :: [slash].intercalate (dropIdleEnd pieces)
  | count + 1 => [slash].intercalate (dropIdleEnd (dropComponents count pieces))

end Path

namespace OutFiles

/-- The body of a pattern below `root`; one that is no absolute path below it stays. -/
def relativeBody (root : Path) (body : String) : String :=
  let path := Path.ofString body
  if path.isAbsolute && (root.below? path).isSome then
    String.ofList ((Text.ofBytesLossy (path.textAfter root.components.length)).toList.map
      fun c => if c = '\\' then '/' else c)
  else body

/-- The patterns below `root`. -/
def relativePatterns (root : Path) (patterns : List String) : List String :=
  patterns.map fun pattern =>
    match polarity pattern with
    | (true, body) => "!" ++ relativeBody root (String.ofList body)
    | (false, body) => relativeBody root (String.ofList body)

end OutFiles

end EarlyBreak
