import EarlyBreak.Json.Basic

/-! Records written as JSON: an object with known keys, or an array of the fields in order. -/

namespace EarlyBreak.Json

/-- What a record allows beside its fields. -/
inductive Extra where
  /-- Members with other keys are passed over. -/
  | ignored
  /-- A member with any other key is a fault. -/
  | refused
  deriving DecidableEq, Repr

/-- The fields of a record by position.  A missing one is `none`. -/
abbrev Fields := List (Option Json)

/-- The values of the keys in an object.  None of them may be repeated. -/
def objectFields? (keys : List String) (extra : Extra) (members : List (String × Json)) :
    Option Fields :=
  if extra = .refused ∧ members.any (fun member => !keys.contains member.1) then none
  else keys.mapM fun key =>
    match members.filter (·.1 == key) with
    | [] => some none
    | [(_, value)] => some (some value)
    | _ => none

/-- The fields of a record, written as an object or as an array in the order of the keys. -/
def fields? (keys : List String) (extra : Extra) : Json → Option Fields
  | .object members => objectFields? keys extra members
  | .array items =>
      if keys.length < items.length then none
      else some (items.map some ++ List.replicate (keys.length - items.length) none)
  | _ => none

/-- A field that must be there. -/
def required? {α : Type} (read : Json → Option α) : Option Json → Option α
  | none => none
  | some value => read value

/-- A field that has a value of its own when absent. -/
def defaulted? {α : Type} (default : α) (read : Json → Option α) : Option Json → Option α
  | none => some default
  | some value => read value

/-- A field that may be absent or null. -/
def optional? {α : Type} (read : Json → Option α) : Option Json → Option (Option α)
  | none | some .null => some none
  | some value => (read value).map some

/-- Items that are all read the same way. -/
def listOf? {α : Type} (read : Json → Option α) (value : Json) : Option (List α) := do
  (← value.items?).mapM read

end EarlyBreak.Json
