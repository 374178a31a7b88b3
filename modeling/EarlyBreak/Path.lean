import EarlyBreak.Text.Utf8

/-! Paths as byte texts.  A path keeps the text it was built with; comparing, sorting and
normalising go by its components.
-/

namespace EarlyBreak

/-- A path: any bytes, separated by slashes.  Equality of this type is equality of the text. -/
structure Path where
  bytes : List UInt8
  deriving DecidableEq, Repr

namespace Path

/-- A component of a path. -/
inductive Component where
  /-- The leading slash. -/
  | root
  /-- A leading `.`; elsewhere a `.` is no component. -/
  | here
  /-- A `..`. -/
  | parent
  /-- Any other name. -/
  | name (bytes : List UInt8)
  deriving DecidableEq, Repr

/-- The byte `/`. -/
def slash : UInt8 := 0x2F

/-- The name `.`. -/
def dotName : List UInt8 := [0x2E]

/-- The name `..`. -/
def dotDotName : List UInt8 := [0x2E, 0x2E]

/-- The path that a text spells. -/
def ofString (s : String) : Path := ⟨Text.toBytes s⟩

/-- The text of a path, with replacement characters where its bytes are not UTF-8. -/
def text (p : Path) : String := Text.ofBytesLossy p.bytes

/-- The text of a path whose bytes are UTF-8. -/
def text? (p : Path) : Option String := Text.ofBytes? p.bytes

/-- Whether a path starts at the root. -/
def isAbsolute (p : Path) : Bool := p.bytes.head? == some slash

/-- The component that a piece between slashes stands for; empty pieces and `.` stand for none. -/
def Component.ofPiece? (piece : List UInt8) : Option Component :=
  if piece = [] ∨ piece = dotName then none
  else if piece = dotDotName then some .parent
  else some (.name piece)

/-- The components of a path. -/
def components (p : Path) : List Component :=
  let pieces := p.bytes.splitOn slash
  let rest := pieces.filterMap Component.ofPiece?
  if p.isAbsolute then .root :: rest
  else if pieces.head? = some dotName then .here :: rest
  else rest

/-- The bytes that a component is written with. -/
def Component.bytes : Component → List UInt8
  | .root => [slash]
  | .here => dotName
  | .parent => dotDotName
  | .name bytes => bytes

/-- Whether two paths have the same components. -/
def same (p q : Path) : Bool := p.components == q.components

/-- Root before `.`, before `..`, before names. -/
def Component.rank : Component → Nat
  | .root => 0
  | .here => 1
  | .parent => 2
  | .name _ => 3

/-- Names by bytes, other components by rank. -/
def Component.order : Component → Component → Ordering
  | .name a, .name b => compare (a.map UInt8.toNat) (b.map UInt8.toNat)
  | a, b => compare a.rank b.rank

/-- The order of two lists of components, the first difference deciding. -/
def orderComponents : List Component → List Component → Ordering
  | [], [] => .eq
  | [], _ :: _ => .lt
  | _ :: _, [] => .gt
  | a :: as, b :: bs => (a.order b).then (orderComponents as bs)

/-- The order of two paths by their components. -/
def order (p q : Path) : Ordering := orderComponents p.components q.components

/-- Whether a path comes before another or has the same components. -/
def atMost (p q : Path) : Bool := (p.order q).isLE

/-- `other` seen from `base`: an absolute path replaces it, any other is appended. -/
def join (base other : Path) : Path :=
  if other.isAbsolute then other
  else if base.bytes = [] ∨ base.bytes.getLast? = some slash then ⟨base.bytes ++ other.bytes⟩
  else ⟨base.bytes ++ slash :: other.bytes⟩

/-- The path that consists of the components, written with single slashes. -/
def ofComponents (components : List Component) : Path :=
  components.foldl (fun path component => path.join ⟨component.bytes⟩) ⟨[]⟩

/-- The name of the last component, unless it is no name. -/
def fileName? (p : Path) : Option (List UInt8) :=
  match p.components.getLast? with
  | some (.name bytes) => some bytes
  | _ => none

/-- The part of the file name after its last dot, unless that dot comes first. -/
def extension? (p : Path) : Option (List UInt8) := do
  let name ← p.fileName?
  let reversed := name.reverse
  let stem := reversed.dropWhile (· != 0x2E)
  if stem.length ≤ 1 then none else return (reversed.takeWhile (· != 0x2E)).reverse

/-- The components of a path below `base`, when its components start with those of `base`. -/
def below? (base p : Path) : Option (List Component) :=
  if base.components.isPrefixOf p.components then
    some (p.components.drop base.components.length)
  else none

/-- One step of folding dots.  `folded` holds the components so far, the last one first. -/
def foldDot (folded : List Component) : Component → List Component
  | .root => [.root]
  | .here => folded
  | .name bytes => .name bytes :: folded
  | .parent =>
      match folded with
      | .name _ :: rest => rest
      | [.root] => [.root]
      | other => .parent :: other

/-- The components without `.`, and with each `..` cancelling the name before it.  A `..` above
the root is dropped; one above a relative start is kept.
-/
def foldDots (components : List Component) : List Component :=
  (components.foldl foldDot []).reverse

/-- The lexical normal form of a path: no dot segments but leading `..` of a relative path. -/
def normalize (p : Path) : Path := ofComponents (foldDots p.components)

end Path

end EarlyBreak
