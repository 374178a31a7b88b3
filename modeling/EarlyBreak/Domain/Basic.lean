import EarlyBreak.Domain.Label

/-! Domains and their ASCII form, in which equal domains are the same text. -/

namespace EarlyBreak.Domain

/-- Characters that no domain may hold in its ASCII form. -/
def isForbidden (c : Char) : Bool :=
  c.toNat ≤ 0x20 || c.toNat == 0x7F
    || ['%', '#', '/', ':', '<', '>', '?', '@', '[', '\\', ']', '^', '|'].contains c

/-- The ASCII form of a domain; `none` if it is no domain.  Once a label has characters written
from right to left, all of them must keep their order.
-/
def ascii? (s : List Char) : Option (List Char) := do
  let labels ← ((← normalized? s).splitOn '.').mapM Label.ofText?
  if labels.any Label.hasRightToLeft && !labels.all Label.isOrdered then none
  else
    let ascii := ['.'].intercalate (labels.map (·.ascii))
    if ascii.any isForbidden then none else return ascii

end EarlyBreak.Domain
