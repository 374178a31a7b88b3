/-! JSON values.  Integers and other numbers are told apart, since only integers decode to
counts; members keep their order and may repeat.
-/

namespace EarlyBreak

/-- A JSON value. -/
inductive Json where
  | null
  | bool (value : Bool)
  /-- A number written without fraction and exponent, within the range of 64 bits. -/
  | int (value : Int)
  /-- Any other number, as it is written. -/
  | real (literal : String)
  | string (text : String)
  | array (items : List Json)
  | object (members : List (String × Json))
  /-- A value that the grammar has and no reader can hold: a number beyond all range, a string
  with half a surrogate pair, or an object with such a key.
  -/
  | unreadable
  deriving Repr, Inhabited

namespace Json

/-- The least magnitude that no double-precision number is near. -/
def doubleBound : Nat := Nat.pow 2 1024 - Nat.pow 2 970

mutual

/-- Whether two values are the same, up to nothing. -/
def beq : Json → Json → Bool
  | null, null => true
  | bool a, bool b => a == b
  | int a, int b => a == b
  | real a, real b => a == b
  | string a, string b => a == b
  | array a, array b => beqItems a b
  | object a, object b => beqMembers a b
  | unreadable, unreadable => true
  | _, _ => false

/-- Whether two lists of values are the same. -/
def beqItems : List Json → List Json → Bool
  | [], [] => true
  | a :: as, b :: bs => beq a b && beqItems as bs
  | _, _ => false

/-- Whether two lists of members are the same. -/
def beqMembers : List (String × Json) → List (String × Json) → Bool
  | [], [] => true
  | (k, a) :: as, (l, b) :: bs => k == l && beq a b && beqMembers as bs
  | _, _ => false

end

instance : BEq Json := ⟨beq⟩

mutual

/-- Whether a value can be held as a whole, nested no deeper than `depth`. -/
def isHeld (depth : Nat) : Json → Bool
  | unreadable => false
  | array items => 0 < depth && areItemsHeld (depth - 1) items
  | object members => 0 < depth && areMembersHeld (depth - 1) members
  | _ => true

/-- Whether all items can be held. -/
def areItemsHeld (depth : Nat) : List Json → Bool
  | [] => true
  | item :: items => isHeld depth item && areItemsHeld depth items

/-- Whether the values of all members can be held. -/
def areMembersHeld (depth : Nat) : List (String × Json) → Bool
  | [] => true
  | (_, value) :: members => isHeld depth value && areMembersHeld depth members

end

/-- The value of the last member with a name. -/
def member? (name : String) : Json → Option Json
  | object members => (members.reverse.find? (·.1 == name)).map (·.2)
  | _ => none

/-- The text of a string. -/
def text? : Json → Option String
  | string s => some s
  | _ => none

/-- The items of an array. -/
def items? : Json → Option (List Json)
  | array items => some items
  | _ => none

/-- The value of a boolean. -/
def bool? : Json → Option Bool
  | bool b => some b
  | _ => none

/-- An integer from zero up to below `bound`. -/
def natBelow? (bound : Nat) : Json → Option Nat
  | int n => if 0 ≤ n ∧ n < bound then some n.toNat else none
  | _ => none

/-- A count of 32 bits. -/
def word32? : Json → Option Nat := natBelow? (Nat.pow 2 32)

/-- A count of 64 bits. -/
def word64? : Json → Option Nat := natBelow? (Nat.pow 2 64)

/-- Strings, each item being one. -/
def texts? (value : Json) : Option (List String) := do (← value.items?).mapM text?

end Json

end EarlyBreak
