/-! Cutting lists of characters: trimming by a predicate, splitting at a separator, and taking
off a known start or ending.
-/

namespace EarlyBreak.Text

/-- The characters after the leading ones that satisfy `p`. -/
def trimStart (p : Char → Bool) (s : List Char) : List Char := s.dropWhile p

/-- The characters before the trailing ones that satisfy `p`. -/
def trimEnd (p : Char → Bool) (s : List Char) : List Char :=
  (s.reverse.dropWhile p).reverse

/-- A text without its leading and trailing characters that satisfy `p`. -/
def trimChars (p : Char → Bool) (s : List Char) : List Char := trimEnd p (trimStart p s)

/-- The characters before the first `sep`, and those after it when there is one. -/
def splitFirst (sep : Char) : List Char → List Char × Option (List Char)
  | [] => ([], none)
  | c :: rest =>
      if c = sep then ([], some rest)
      else ((c :: (splitFirst sep rest).1), (splitFirst sep rest).2)

/-- The characters before the last `sep` and those after it, when there is one. -/
def splitLast? (sep : Char) (s : List Char) : Option (List Char × List Char) :=
  match splitFirst sep s.reverse with
  | (_, none) => none
  | (after, some before) => some (before.reverse, after.reverse)

/-- What follows `start` in a text that begins with it. -/
def dropStart? : List Char → List Char → Option (List Char)
  | [], s => some s
  | _ :: _, [] => none
  | p :: start, c :: s => if p = c then dropStart? start s else none

/-- What precedes `ending` in a text that ends with it. -/
def dropEnd? (ending s : List Char) : Option (List Char) :=
  (dropStart? ending.reverse s.reverse).map List.reverse

/-- The text with every occurrence of `old`, found from the left, written as `new`.  An empty
`old` occurs nowhere.
-/
def replaceAll (old new : List Char) : List Char → List Char
  | [] => []
  | c :: rest =>
      if old ≠ [] ∧ old.isPrefixOf (c :: rest) then
        new ++ replaceAll old new (rest.drop (old.length - 1))
      else c :: replaceAll old new rest
termination_by s => s.length
decreasing_by all_goals simp only [List.length_drop, List.length_cons]; omega

end EarlyBreak.Text
