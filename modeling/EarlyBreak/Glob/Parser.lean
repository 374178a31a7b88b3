import EarlyBreak.Glob.Basic

/-! Reading patterns, one character at a time.  What a `**` means is settled by its neighbours, so
stars are kept back until the next character is known.
-/

namespace EarlyBreak.Glob

/-- A character class that is being read. -/
structure OpenClass where
  negated : Bool
  /-- The ranges so far, the last one first. -/
  ranges : List (Char × Char)
  /-- Whether a `-` waits for the end of its range. -/
  inRange : Bool

/-- What the next character is read as. -/
inductive Mode where
  | plain
  /-- After a backslash. -/
  | escaped
  /-- After one star; `before` is the character in front of it. -/
  | oneStar (before : Option Char)
  /-- After two stars; `before` is the character in front of them. -/
  | twoStars (before : Option Char)
  /-- After the bracket that opens a class. -/
  | classStart
  | inClass (cls : OpenClass)

/-- A group whose closing brace is still to come. -/
structure OpenGroup where
  /-- The finished branches, the last one first. -/
  branches : List (List Token)
  /-- The tokens in front of the group, the last one first. -/
  outside : List Token

/-- A pattern that has been read in part. -/
structure Reading where
  mode : Mode
  /-- The character read last. -/
  previous : Option Char
  /-- The tokens of the innermost branch, the last one first. -/
  tokens : List Token
  /-- The open groups, the innermost one first. -/
  groups : List OpenGroup

/-- Nothing read yet. -/
def Reading.start : Reading := ⟨.plain, none, [], []⟩

namespace Reading

/-- Adds a token. -/
def push (r : Reading) (token : Token) : Reading := { r with tokens := token :: r.tokens }

/-- Two stars that have no meaning together. -/
def pushStars (r : Reading) : Reading := (r.push .star).push .star

/-- Puts a token for folders in place of the slash before it.  A token for folders that is there
already covers it.
-/
def replaceLast (r : Reading) (token : Token) : Reading :=
  match r.tokens with
  | .leadingDirs :: _ | .trailingDirs :: _ => r
  | _ :: rest => { r with tokens := token :: rest }
  | [] => { r with tokens := [token] }

/-- Whether two stars after the character `before` may stand for folders. -/
def mayStartDirs (r : Reading) (before : Option Char) : Bool :=
  before == some '/' ||
    (!r.groups.isEmpty && (before == some ',' || before == some '\x7b'))

/-- Reads a character outside classes that no star waits for. -/
def plain (r : Reading) (c : Char) : Except Fault Reading :=
  match c with
  | '?' => .ok (r.push .any)
  | '*' => .ok { r with mode := .oneStar r.previous }
  | '[' => .ok { r with mode := .classStart }
  | '\\' => .ok { r with mode := .escaped }
  | '\x7b' => .ok { r with tokens := [], groups := ⟨[], r.tokens⟩ :: r.groups }
  | '\x7d' =>
      match r.groups with
      | [] => .error .unopenedGroup
      | group :: groups =>
          let branches := ((r.tokens :: group.branches).map List.reverse).reverse
          .ok { r with tokens := .alternatives branches :: group.outside, groups }
  | ',' =>
      match r.groups with
      | [] => .ok (r.push (.literal ','))
      | group :: groups =>
          .ok { r with
            tokens := []
            groups := { group with branches := r.tokens :: group.branches } :: groups }
  | c => .ok (r.push (.literal c))

/-- Settles what two stars mean before the character `c`. -/
def afterStars (r : Reading) (before : Option Char) (c : Char) : Except Fault Reading :=
  if r.tokens.isEmpty then
    if c = '/' then .ok (r.push .leadingDirs) else r.pushStars.plain c
  else if !r.mayStartDirs before then r.pushStars.plain c
  else if !r.groups.isEmpty && (c == ',' || c == '\x7d') then
    (r.replaceLast .trailingDirs).plain c
  else if c = '/' then .ok (r.replaceLast .innerDirs)
  else r.pushStars.plain c

/-- Reads a character of a class. -/
def classChar (r : Reading) (cls : OpenClass) (c : Char) : Except Fault Reading :=
  match cls.ranges with
  | [] => .ok { r with mode := .inClass { cls with ranges := [(c, c)] } }
  | (low, high) :: rest =>
      if c = ']' then
        let ranges := if cls.inRange then ('-', '-') :: cls.ranges else cls.ranges
        .ok { r.push (.oneOf cls.negated ranges.reverse) with mode := .plain }
      else if cls.inRange then
        if c < low then .error (.invalidRange low c)
        else .ok { r with mode := .inClass ⟨cls.negated, (low, c) :: rest, false⟩ }
      else if c = '-' then .ok { r with mode := .inClass { cls with inRange := true } }
      else .ok { r with mode := .inClass ⟨cls.negated, (c, c) :: (low, high) :: rest, false⟩ }

/-- Reads a character in the mode that the characters before it left. -/
def step (r : Reading) (c : Char) : Except Fault Reading :=
  match r.mode with
  | .plain => r.plain c
  | .escaped => .ok { r.push (.literal c) with mode := .plain }
  | .oneStar before =>
      if c = '*' then .ok { r with mode := .twoStars before }
      else { r.push .star with mode := .plain }.plain c
  | .twoStars before => { r with mode := .plain }.afterStars before c
  | .classStart =>
      if c = '!' ∨ c = '^' then .ok { r with mode := .inClass ⟨true, [], false⟩ }
      else r.classChar ⟨false, [], false⟩ c
  | .inClass cls => r.classChar cls c

/-- Reads a character and remembers it. -/
def next (r : Reading) (c : Char) : Except Fault Reading :=
  (r.step c).map fun after => { after with previous := some c }

/-- Settles what two stars mean at the end. -/
def lastStars (r : Reading) (before : Option Char) : Reading :=
  if r.tokens.isEmpty then r.push .leadingDirs
  else if r.mayStartDirs before then r.replaceLast .trailingDirs
  else r.pushStars

/-- The pattern, when nothing is left open. -/
def close (r : Reading) : Except Fault Glob :=
  if r.groups.isEmpty then .ok ⟨r.tokens.reverse⟩ else .error .unclosedGroup

/-- The pattern at the end of the text. -/
def finish (r : Reading) : Except Fault Glob :=
  match r.mode with
  | .plain => r.close
  | .escaped => .error .danglingEscape
  | .oneStar _ => (r.push .star).close
  | .twoStars before => (r.lastStars before).close
  | .classStart | .inClass _ => .error .unclosedClass

end Reading

/-- The pattern that a text spells. -/
def parse (s : List Char) : Except Fault Glob := do
  (← s.foldlM Reading.next .start).finish

end EarlyBreak.Glob
