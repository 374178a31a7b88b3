import EarlyBreak.Domain.Mapping
import EarlyBreak.Domain.Punycode
import EarlyBreak.Unicode.Direction
import EarlyBreak.Unicode.Joining
import EarlyBreak.Unicode.Mark

/-! The labels of a domain, each with its ASCII form, and the rules that a label beyond ASCII
keeps.
-/

namespace EarlyBreak.Domain

open Unicode

/-- A label as it is read and as it is written in ASCII. -/
structure Label where
  text : List Char
  ascii : List Char
  deriving DecidableEq, Repr

/-- The mark in front of a label in Punycode. -/
def punycodeMark : List Char := "xn--".toList

/-- The joining of the nearest character that joining does not look through. -/
def nearestJoining? (s : List Char) : Option Joining :=
  (s.dropWhile fun c => Joining.of? c == some .transparent).head?.bind Joining.of?

/-- Whether a character may stand after the characters of `before`, the last of which comes first,
and in front of `after`.  A joiner belongs behind a mark that takes a vowel away; a non-joiner may
also keep two letters from joining.
-/
def fitsBetween (before : List Char) (c : Char) (after : List Char) : Bool :=
  if c != '\u200c' && c != '\u200d' then true
  else if before.head?.any (combiningClass · == viramaClass) then true
  else
    c == '\u200c'
      && [some .leftSide, some .bothSides].contains (nearestJoining? before)
      && [some .rightSide, some .bothSides].contains (nearestJoining? after)

/-- Whether all joiners and non-joiners have their place in a text. -/
def joinersFit (before : List Char) : List Char → Bool
  | [] => true
  | c :: after => fitsBetween before c after && joinersFit (c :: before) after

/-- Whether a text beyond ASCII may be a label: its first character is no mark, and joiners have
their place.
-/
def isLabelText (s : List Char) : Bool := !s.head?.any isMark && joinersFit [] s

/-- The label that a part of a normalized domain spells.  What Punycode stands for must be beyond
ASCII and normalized itself.
-/
def Label.ofText? (s : List Char) : Option Label :=
  if punycodeMark.isPrefixOf s then do
    let code := s.drop punycodeMark.length
    let text ← if s.all isAscii && code.length ≤ 2000 then Punycode.decode? code else none
    if !text.all isAscii && normalized? text == some text && isLabelText text then
      return ⟨text, s⟩
    else none
  else if s.all isAscii then some ⟨s, s⟩
  else if isLabelText s && s.length ≤ 1000 then
    some ⟨s, punycodeMark ++ Punycode.encode s⟩
  else none

/-- The directions of the characters of a label. -/
def Label.directions (label : Label) : List Direction := label.text.map Direction.of

/-- Whether something in a label is written from right to left. -/
def Label.hasRightToLeft (label : Label) : Bool :=
  label.directions.any fun direction => direction == .right || direction == .arabicNumber

/-- The last direction that is not that of a mark. -/
def lastDirection? (directions : List Direction) : Option Direction :=
  (directions.reverse.dropWhile (· == .mark)).head?

/-- Whether a label keeps its order when it is shown beside labels of the other direction: it
starts with a letter, holds none of the other direction, and ends in a letter or number.  From
right to left it has one kind of numbers; an empty label keeps any order.
-/
def Label.isOrdered (label : Label) : Bool :=
  let directions := label.directions
  let ends := lastDirection? directions
  match directions with
  | [] => true
  | .left :: _ =>
      !directions.contains .right && !directions.contains .arabicNumber
        && [some .left, some .number].contains ends
  | .right :: _ =>
      !directions.contains .left
        && !(directions.contains .number && directions.contains .arabicNumber)
        && [some .right, some .number, some .arabicNumber].contains ends
  | _ => false

end EarlyBreak.Domain
