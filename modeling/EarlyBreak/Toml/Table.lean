import EarlyBreak.Json.Basic

/-! Tables while a TOML document is being read.  Where a table came from says what may still be
added to it; once the document is read, a table is a JSON object.
-/

namespace EarlyBreak.Toml

/-- What a table came from. -/
inductive Origin where
  /-- A header of its own, or braces. -/
  | header
  /-- The header of a table inside it. -/
  | implied
  /-- A dotted key. -/
  | dotted
  deriving DecidableEq, Repr

/-- What stands under a key. -/
inductive Item where
  | value (v : Json)
  | table (origin : Origin) (entries : List (String × Item))
  /-- An array of tables, in order. -/
  | tables (rows : List (List (String × Item)))
  deriving Inhabited

/-- The entries of a table. -/
abbrev Entries := List (String × Item)

/-- The entries with one of them set. -/
def setEntry (key : String) (item : Item) : Entries → Entries
  | [] => [(key, item)]
  | (other, old) :: rest =>
      if other = key then (key, item) :: rest else (other, old) :: setEntry key item rest

/-- Changes the table that a path leads to.  Missing tables are implied by the path; an array of
tables stands for its last one.
-/
def within? (change : Entries → Option Entries) : List String → Entries → Option Entries
  | [], entries => change entries
  | key :: path, entries =>
      match entries.lookup key with
      | none => do return setEntry key (.table .implied (← within? change path [])) entries
      | some (.table origin inner) => do
          return setEntry key (.table origin (← within? change path inner)) entries
      | some (.tables rows) => do
          let last ← within? change path (← rows.getLast?)
          return setEntry key (.tables (rows.dropLast ++ [last])) entries
      | some (.value _) => none

/-- Adds a value behind a dotted path.  A table takes a key if `isOpen`: the current one does, and
one that dotted keys made.
-/
def assign? (key : String) (v : Json) (isOpen : Bool) : List String → Entries → Option Entries
  | [], entries =>
      if isOpen && (entries.lookup key).isNone then some (entries ++ [(key, .value v)]) else none
  | step :: path, entries =>
      match entries.lookup step with
      | none => do return setEntry step (.table .dotted (← assign? key v true path [])) entries
      | some (.table .dotted inner) => do
          return setEntry step (.table .dotted (← assign? key v true path inner)) entries
      | some (.table .implied inner) => do
          return setEntry step (.table .implied (← assign? key v false path inner)) entries
      | some (.tables rows) => do
          let last ← assign? key v false path (← rows.getLast?)
          return setEntry step (.tables (rows.dropLast ++ [last])) entries
      | some (.table .header _) | some (.value _) => none

/-- Opens a table by its header.  One that was only implied so far keeps what it holds. -/
def openTable? (key : String) (entries : Entries) : Option Entries :=
  match entries.lookup key with
  | none => some (entries ++ [(key, .table .header [])])
  | some (.table .implied inner) => some (setEntry key (.table .header inner) entries)
  | some _ => none

/-- Adds a table to an array of tables. -/
def addRow? (key : String) (entries : Entries) : Option Entries :=
  match entries.lookup key with
  | none => some (entries ++ [(key, .tables [[]])])
  | some (.tables rows) => some (setEntry key (.tables (rows ++ [[]])) entries)
  | some _ => none

mutual

/-- What stands under a key, as a JSON value. -/
def Item.toJson : Item → Json
  | .value v => v
  | .table _ entries => .object (entriesToJson entries)
  | .tables rows => .array (rowsToJson rows)

/-- The members of a table. -/
def entriesToJson : List (String × Item) → List (String × Json)
  | [] => []
  | (key, item) :: rest => (key, item.toJson) :: entriesToJson rest

/-- The items of an array of tables. -/
def rowsToJson : List (List (String × Item)) → List Json
  | [] => []
  | row :: rest => .object (entriesToJson row) :: rowsToJson rest

end

end EarlyBreak.Toml
