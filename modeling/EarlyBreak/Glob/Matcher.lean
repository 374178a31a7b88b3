import EarlyBreak.Glob.Basic
import EarlyBreak.Text.Utf8

/-! Matching paths against patterns.  The bytes of the path lie on a tape that marks how far the
pattern can have come; each token moves the marks, so the time is linear in both lengths.
-/

namespace EarlyBreak.Glob

/-- Bytes with a mark in front of each and one at the end. -/
inductive Tape where
  | done (mark : Bool)
  | cell (mark : Bool) (byte : UInt8) (rest : Tape)

namespace Tape

/-- The bytes without any mark. -/
def blank : List UInt8 → Tape
  | [] => done false
  | byte :: rest => cell false byte (blank rest)

/-- The bytes with a mark at their start. -/
def start : List UInt8 → Tape
  | [] => done true
  | byte :: rest => cell true byte (blank rest)

/-- Moves each mark over one accepted byte.  `mark` is what arrives at the front. -/
def shift (accept : UInt8 → Bool) (mark : Bool) : Tape → Tape
  | done _ => done mark
  | cell here byte rest => cell mark byte (shift accept (here && accept byte) rest)

/-- Moves each mark over one accepted byte. -/
def step (accept : UInt8 → Bool) (tape : Tape) : Tape := tape.shift accept false

/-- Spreads each mark over any number of accepted bytes.  `mark` is what arrives at the front. -/
def spreadFrom (accept : UInt8 → Bool) (mark : Bool) : Tape → Tape
  | done here => done (mark || here)
  | cell here byte rest =>
      cell (mark || here) byte (spreadFrom accept ((mark || here) && accept byte) rest)

/-- Spreads each mark over any number of accepted bytes. -/
def spread (accept : UInt8 → Bool) (tape : Tape) : Tape := tape.spreadFrom accept false

/-- The marks of either of two tapes with the same bytes. -/
def merge : Tape → Tape → Tape
  | cell a byte rest, cell b _ other => cell (a || b) byte (merge rest other)
  | done a, done b => done (a || b)
  | tape, _ => tape

/-- Whether the end is marked. -/
def reachesEnd : Tape → Bool
  | done mark => mark
  | cell _ _ rest => rest.reachesEnd

end Tape

/-- Whether a byte is a slash. -/
def isSlash (b : UInt8) : Bool := b == 0x2F

/-- Whether a byte is no slash. -/
def noSlash (b : UInt8) : Bool := !isSlash b

/-- Any byte. -/
def anyByte (_ : UInt8) : Bool := true

/-- Whether a byte belongs to a range of characters.  A range of characters of several bytes is
taken byte by byte: from the last byte of its first to the first byte of its last.
-/
def inRange (b : UInt8) (range : Char × Char) : Bool :=
  let low := Text.toBytes range.1.toString
  let high := Text.toBytes range.2.toString
  low.dropLast.contains b || high.tail.contains b ||
    (if range.1 = range.2 then low.contains b
    else
      match low.getLast?, high.head? with
      | some a, some z => a ≤ b && b ≤ z
      | _, _ => false)

mutual

/-- Whether a token can match nothing but the empty text, because it has no branch that is more.
-/
def Token.isVoid : Token → Bool
  | .alternatives branches => areVoid branches
  | _ => false

/-- Whether a branch consists of void tokens. -/
def isVoid : List Token → Bool
  | [] => true
  | token :: rest => token.isVoid && isVoid rest

/-- Whether all branches are void. -/
def areVoid : List (List Token) → Bool
  | [] => true
  | branch :: rest => isVoid branch && areVoid rest

end

mutual

/-- Moves the marks over what a token matches. -/
def Token.advance (tape : Tape) : Token → Tape
  | .literal c => (Text.toBytes c.toString).foldl (fun tape b => tape.step (· == b)) tape
  | .any => tape.step noSlash
  | .star => tape.spread noSlash
  | .leadingDirs => tape.merge ((tape.spread anyByte).step isSlash)
  | .trailingDirs => (tape.step isSlash).spread anyByte
  | .innerDirs =>
      let after := tape.step isSlash
      after.merge ((after.spread anyByte).step isSlash)
  | .oneOf negated ranges => tape.step fun b => ranges.any (inRange b) != negated
  | .alternatives branches => if areVoid branches then tape else advanceAny tape branches

/-- Moves the marks over what the tokens match one after the other. -/
def advance (tape : Tape) : List Token → Tape
  | [] => tape
  | token :: rest => advance (token.advance tape) rest

/-- Moves the marks over what one of the branches matches.  Void branches do not count. -/
def advanceAny (tape : Tape) : List (List Token) → Tape
  | [] => tape.step fun _ => false
  | branch :: rest =>
      if isVoid branch then advanceAny tape rest
      else (advance tape branch).merge (advanceAny tape rest)

end

/-- Whether a token is a character that stands for itself. -/
def Token.isLiteral : Token → Bool
  | .literal _ => true
  | _ => false

/-- Whether a token is a given character that stands for itself. -/
def Token.isCharacter (token : Token) (c : Char) : Bool :=
  match token with
  | .literal d => c == d
  | _ => false

/-- Whether tokens spell out a path, or its end from some folder on. -/
def spellsPath : List Token → Bool
  | .leadingDirs :: rest => rest.all Token.isLiteral && rest.any (·.isCharacter '/')
  | tokens => tokens.all Token.isLiteral

/-- Whether tokens ask for a file name with a dot at its end. -/
def asksForFinalDot (tokens : List Token) : Bool :=
  tokens.getLast?.any (·.isCharacter '.') && !spellsPath tokens

/-- Whether the last piece of a path is `..`, which is no file name. -/
def endsAbove (path : String) : Bool := (path.toList.splitOn '/').getLast? == some ['.', '.']

/-- Whether a whole path matches.  A pattern that is just `**` matches every path; one that asks
for a file name with a dot at its end does not take `..` for one.
-/
def isMatch (glob : Glob) (path : String) : Bool :=
  if endsAbove path && asksForFinalDot glob.tokens then false
  else
    match glob.tokens with
    | [.leadingDirs] => true
    | tokens => (advance (.start (Text.toBytes path)) tokens).reachesEnd

end EarlyBreak.Glob
