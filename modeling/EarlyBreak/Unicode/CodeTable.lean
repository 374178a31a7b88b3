import EarlyBreak.Text.Cut
import EarlyBreak.Text.Hex

/-! Tables over code points.  A table is written as words, each a run of code points and a note on
it, and is searched by halving.
-/

namespace EarlyBreak.Unicode

/-- A run of code points and what a table says of them. -/
structure Row (α : Type) where
  first : Nat
  last : Nat
  note : α
  deriving Repr

/-- A table of rows in order, none of which overlap. -/
structure CodeTable (α : Type) where
  rows : Array (Row α)

/-- The number that hexadecimal digits spell. -/
def codePoint (digits : List Char) : Nat :=
  digits.foldl (fun n c => n * 16 + (Text.hexValue? c).getD 0) 0

/-- The row of a word: a code point, or two with a hyphen between, and then the note. -/
def Row.ofWord {α : Type} (readNote : List Char → α) (word : List Char) : Row α :=
  let (run, note) := word.span fun c => c == '-' || (Text.hexValue? c).isSome
  let (first, last) := Text.splitFirst '-' run
  ⟨codePoint first, codePoint (last.getD first), readNote note⟩

namespace CodeTable

variable {α : Type}

/-- The table that a text writes, its words separated by blanks and line ends. -/
def ofText (readNote : List Char → α) (text : String) : CodeTable α :=
  let words := (text.toList.splitOnP fun c => c == ' ' || c == '\n').filter (!·.isEmpty)
  ⟨(words.map (Row.ofWord readNote)).toArray⟩

/-- The row around a code point among those from `low` up to `high`, which halving finds within
`fuel` steps.
-/
def search (rows : Array (Row α)) (n : Nat) : Nat → Nat → Nat → Option (Row α)
  | 0, _, _ => none
  | fuel + 1, low, high =>
      if high ≤ low then none
      else
        let middle := (low + high) / 2
        match rows[middle]? with
        | none => none
        | some row =>
            if n < row.first then search rows n fuel low middle
            else if row.last < n then search rows n fuel (middle + 1) high
            else some row

/-- The row that a character is in. -/
def row? (table : CodeTable α) (c : Char) : Option (Row α) :=
  search table.rows c.toNat (table.rows.size + 1) 0 table.rows.size

/-- What a table says of a character. -/
def get? (table : CodeTable α) (c : Char) : Option α := (table.row? c).map (·.note)

/-- Whether a table has a row for a character. -/
def contains (table : CodeTable α) (c : Char) : Bool := (table.row? c).isSome

end CodeTable

/-- Whether a character is in ASCII, which most tables can leave out. -/
def isAscii (c : Char) : Bool := c.toNat < 128

end EarlyBreak.Unicode
