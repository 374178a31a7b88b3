/-! File name patterns: what they are made of, and why a text is none. -/

namespace EarlyBreak

namespace Glob

/-- A part of a pattern. -/
inductive Token where
  /-- A character that stands for itself. -/
  | literal (c : Char)
  /-- `?`: one byte that is no slash. -/
  | any
  /-- `*`: bytes that are no slashes. -/
  | star
  /-- A leading `**` with its slash: any folders, or none. -/
  | leadingDirs
  /-- A trailing `**` with the slash before it: anything below a folder. -/
  | trailingDirs
  /-- A `**` between two slashes: any folders, or none. -/
  | innerDirs
  /-- `[…]`: a byte of one of the character ranges or, negated, of none. -/
  | oneOf (negated : Bool) (ranges : List (Char × Char))
  /-- `{…}`: one of several patterns. -/
  | alternatives (branches : List (List Token))
  deriving BEq, Repr, Inhabited

/-- Why a text is no pattern. -/
inductive Fault where
  | unclosedClass
  | invalidRange (low high : Char)
  | unopenedGroup
  | unclosedGroup
  | danglingEscape
  deriving DecidableEq, Repr

/-- The text of a fault. -/
def Fault.message : Fault → String
  | .unclosedClass => "unclosed character class; missing ']'"
  | .invalidRange low high =>
      "invalid range; '" ++ low.toString ++ "' > '" ++ high.toString ++ "'"
  | .unopenedGroup =>
      "unopened alternate group; missing '\x7b' (maybe escape '\x7d' with '[\x7d]'?)"
  | .unclosedGroup =>
      "unclosed alternate group; missing '\x7d' (maybe escape '\x7b' with '[\x7b]'?)"
  | .danglingEscape => "dangling '\\'"

end Glob

/-- A pattern for file names. -/
structure Glob where
  tokens : List Glob.Token
  deriving BEq, Repr

end EarlyBreak
