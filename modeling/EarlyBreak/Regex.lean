import EarlyBreak.Text.Ascii

/-! A small language of regular expressions: its written form, and unanchored search by the
positions that a match can end at.
-/

namespace EarlyBreak

/-- A set of characters that one place of an expression accepts. -/
inductive Regex.CharSet where
  /-- The dot: anything but a line feed. -/
  | dot
  /-- A bracketed list of characters. -/
  | among (members : List Char)
  /-- Anything but ASCII letters and digits. -/
  | notAlphanumeric
  deriving DecidableEq, Repr

/-- A regular expression. -/
inductive Regex where
  /-- The start of the text. -/
  | start
  /-- The end of the text. -/
  | finish
  /-- Fixed characters. -/
  | literal (text : List Char)
  | one (set : Regex.CharSet)
  /-- Any number of characters of a set. -/
  | many (set : Regex.CharSet)
  | sequence (first second : Regex)
  | either (first second : Regex)
  | optional (inner : Regex)
  deriving DecidableEq, Repr

namespace Regex

/-- Whether a set has a character. -/
def CharSet.has : CharSet → Char → Bool
  | .dot, c => c != '\n'
  | .among members, c => members.contains c
  | .notAlphanumeric, c => !Text.isAsciiAlphanumeric c

/-- Characters with a meaning of their own, which a literal writes after a backslash. -/
def metaChars : List Char :=
  ['\\', '.', '+', '*', '?', '(', ')', '|', '[', ']', '\x7b', '\x7d', '^', '$', '#', '&', '-', '~']

/-- Fixed characters as an expression writes them. -/
def escape (text : List Char) : List Char :=
  text.flatMap fun c => if metaChars.contains c then ['\\', c] else [c]

/-- The written form of a set. -/
def CharSet.render : CharSet → List Char
  | .dot => ['.']
  | .among members => '[' :: escape members ++ [']']
  | .notAlphanumeric => "[^A-Za-z0-9]".toList

/-- The written form of an expression. -/
def render : Regex → List Char
  | .start => ['^']
  | .finish => ['$']
  | .literal text => escape text
  | .one set => set.render
  | .many set => set.render ++ ['*']
  | .sequence first second => first.render ++ second.render
  | .either first second => '(' :: first.render ++ '|' :: second.render ++ [')']
  | .optional inner => '(' :: inner.render ++ [')', '?']

/-- A place in a text: whether it is the start, and what follows. -/
structure Position where
  atStart : Bool
  rest : List Char
  deriving DecidableEq, Repr

/-- The places that runs of a set's characters from here end at. -/
def runEnds (set : CharSet) : Bool → List Char → List Position
  | atStart, [] => [⟨atStart, []⟩]
  | atStart, c :: rest =>
      ⟨atStart, c :: rest⟩ :: if set.has c then runEnds set false rest else []

/-- The place after fixed characters. -/
def literalEnd? : List Char → Position → Option Position
  | [], position => some position
  | l :: text, ⟨_, c :: rest⟩ => if l = c then literalEnd? text ⟨false, rest⟩ else none
  | _ :: _, ⟨_, []⟩ => none

/-- The places where matches of an expression from here end. -/
def ends : Regex → Position → List Position
  | .start, position => if position.atStart then [position] else []
  | .finish, position => if position.rest.isEmpty then [position] else []
  | .literal text, position => (literalEnd? text position).toList
  | .one set, ⟨_, c :: rest⟩ => if set.has c then [⟨false, rest⟩] else []
  | .one _, ⟨_, []⟩ => []
  | .many set, ⟨atStart, rest⟩ => runEnds set atStart rest
  | .sequence first second, position => (first.ends position).flatMap second.ends
  | .either first second, position => first.ends position ++ second.ends position
  | .optional inner, position => inner.ends position ++ [position]

/-- The places of a text from here on. -/
def places : Bool → List Char → List Position
  | atStart, [] => [⟨atStart, []⟩]
  | atStart, c :: rest => ⟨atStart, c :: rest⟩ :: places false rest

/-- Whether an expression matches somewhere in a text. -/
def search (r : Regex) (text : List Char) : Bool :=
  (places true text).any fun position => !(r.ends position).isEmpty

end Regex

end EarlyBreak
