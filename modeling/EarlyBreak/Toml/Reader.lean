import EarlyBreak.Toml.Scalars
import EarlyBreak.Toml.Strings
import EarlyBreak.Toml.Table

/-! Reading TOML documents as JSON objects. -/

namespace EarlyBreak.Toml

/-- The bound on nested values and on the steps of a dotted key. -/
def depthLimit : Nat := 80

/-- A text without its leading blanks. -/
def skipSpace (s : List Char) : List Char := s.dropWhile isSpace

/-- The text after a comment, if one starts here. -/
def skipComment : List Char → List Char
  | '#' :: rest => rest.dropWhile isPlain
  | s => s

/-- The text after blanks, comments and line ends; a comment must have a line end. -/
def skipFiller? : Nat → List Char → Option (List Char)
  | 0, _ => none
  | fuel + 1, s =>
      match skipSpace s with
      | '#' :: rest => do skipFiller? fuel (← newLine? (rest.dropWhile isPlain))
      | s =>
          match newLine? s with
          | some rest => skipFiller? fuel rest
          | none => some s

/-- The text after the end of a line, before which a comment may stand. -/
def lineEnd? (s : List Char) : Option (List Char) :=
  match skipComment (skipSpace s) with
  | [] => some []
  | s => newLine? s

/-- Whether a character may stand in a key without quotes. -/
def isKeyChar (c : Char) : Bool := Text.isAsciiAlphanumeric c || c == '-' || c == '_'

/-- A step of a key, and what follows it. -/
def simpleKey? (s : List Char) : Option (String × List Char) :=
  match s with
  | '"' :: rest => do
      let (text, rest) ← basic? (rest.length + 1) rest
      return (String.ofList text, rest)
  | '\'' :: rest => do
      let (text, rest) ← literal? rest
      return (String.ofList text, rest)
  | s =>
      match s.span isKeyChar with
      | ([], _) => none
      | (name, rest) => some (String.ofList name, rest)

/-- The steps of a key, and what follows it. -/
def keySteps? : Nat → List Char → Option (List String × List Char)
  | 0, _ => none
  | fuel + 1, s => do
      let (step, rest) ← simpleKey? (skipSpace s)
      match skipSpace rest with
      | '.' :: rest =>
          let (steps, rest) ← keySteps? fuel rest
          return (step :: steps, rest)
      | rest => return ([step], rest)

/-- A key as the path to its table and its last step, and what follows it. -/
def key? (s : List Char) : Option (List String × String × List Char) := do
  let (steps, rest) ← keySteps? (s.length + 1) s
  if depthLimit ≤ steps.length then none
  else return (steps.dropLast, ← steps.getLast?, rest)

mutual

/-- A value, and what follows it. -/
def value? : Nat → Nat → List Char → Option (Json × List Char)
  | 0, _, _ => none
  | fuel + 1, depth, s =>
      match s with
      | '"' :: _ | '\'' :: _ => do
          let (text, rest) ← string? s
          return (.string text, rest)
      | '[' :: rest =>
          match depth with
          | 0 => none
          | depth + 1 => do
              let (items, rest) ← items? fuel depth rest
              return (.array items, rest)
      | '\x7b' :: rest =>
          match depth with
          | 0 => none
          | depth + 1 =>
              match skipSpace rest with
              | '\x7d' :: rest => some (.object [], rest)
              | rest => do
                  let (entries, rest) ← pairs? fuel depth [] rest
                  return (.object (entriesToJson entries), rest)
      | 't' :: 'r' :: 'u' :: 'e' :: rest => some (.bool true, rest)
      | 'f' :: 'a' :: 'l' :: 's' :: 'e' :: rest => some (.bool false, rest)
      | s => scalar? s

/-- The items of an array up to its closing bracket. -/
def items? : Nat → Nat → List Char → Option (List Json × List Char)
  | 0, _, _ => none
  | fuel + 1, depth, s => do
      match ← skipFiller? (s.length + 1) s with
      | ']' :: rest => return ([], rest)
      | s =>
          let (item, rest) ← value? fuel depth s
          match ← skipFiller? (rest.length + 1) rest with
          | ',' :: rest =>
              let (items, rest) ← items? fuel depth rest
              return (item :: items, rest)
          | ']' :: rest => return ([item], rest)
          | _ => none

/-- The entries of a table in braces that has some, after those already read. -/
def pairs? : Nat → Nat → Entries → List Char → Option (Entries × List Char)
  | 0, _, _, _ => none
  | fuel + 1, depth, entries, s => do
      let (path, last, rest) ← key? s
      match rest with
      | '=' :: rest =>
          let (v, rest) ← value? fuel depth (skipSpace rest)
          let entries ← assign? last v true path entries
          match skipSpace rest with
          | ',' :: rest => pairs? fuel depth entries rest
          | '\x7d' :: rest => return (entries, rest)
          | _ => none
      | _ => none

end

/-- A document that has been read in part: its tables, and the path of the current one. -/
structure Document where
  root : Entries
  current : List String

/-- Reads the rest of a header, whose brackets are `closing` in the end. -/
def header? (closing : List Char) (opening : String → Entries → Option Entries)
    (document : Document) (s : List Char) : Option (Document × List Char) := do
  let (path, last, rest) ← key? s
  if closing.isPrefixOf rest then
    let root ← within? (opening last) path document.root
    return (⟨root, path ++ [last]⟩, ← lineEnd? (rest.drop closing.length))
  else none

/-- Reads a line that assigns a value in the current table. -/
def assignment? (document : Document) (s : List Char) : Option (Document × List Char) := do
  let (path, last, rest) ← key? s
  match rest with
  | '=' :: rest =>
      let (v, rest) ← value? (rest.length + 1) (depthLimit - 1) (skipSpace rest)
      let root ← within? (assign? last v true path) document.current document.root
      return ({ document with root }, ← lineEnd? rest)
  | _ => none

/-- Reads the lines of a document. -/
def lines? : Nat → Document → List Char → Option Document
  | 0, _, _ => none
  | fuel + 1, document, s =>
      match skipSpace s with
      | [] => some document
      | '#' :: rest => do lines? fuel document (← lineEnd? ('#' :: rest))
      | '[' :: '[' :: rest => do
          let (document, rest) ← header? "]]".toList addRow? document rest
          lines? fuel document rest
      | '[' :: rest => do
          let (document, rest) ← header? "]".toList openTable? document rest
          lines? fuel document rest
      | s =>
          match newLine? s with
          | some rest => lines? fuel document rest
          | none => do
              let (document, rest) ← assignment? document s
              lines? fuel document rest

/-- A text without a leading byte order mark. -/
def dropByteOrderMark : List Char → List Char
  | '\uFEFF' :: rest => rest
  | s => s

/-- The object that a document describes. -/
def parse? (text : String) : Option Json := do
  let s := dropByteOrderMark text.toList
  let document ← lines? (s.length + 1) ⟨[], []⟩ s
  return .object (entriesToJson document.root)

end EarlyBreak.Toml
