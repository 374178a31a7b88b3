import EarlyBreak.Path
import Mathlib

/-! The order of paths.  It is a linear order of their components, so that only paths with the same
components are equal in it.
-/

namespace EarlyBreak.Path

namespace Component

/-- What tells components of one rank apart: the bytes of a name. -/
def letters : Component → List Nat
  | .name bytes => bytes.map UInt8.toNat
  | _ => []

/-- Components are compared by rank, and names among each other by their bytes. -/
theorem order_eq_compareLex
    : order = compareLex (compareOn rank) (compareOn letters) := by
  funext a b
  cases a <;> cases b <;> rfl

theorem eq_of_rank_of_letters {a b : Component} (ranks : a.rank = b.rank)
    (letters : a.letters = b.letters)
    : a = b := by
  cases a <;> cases b <;> cases ranks
  case name.name a b =>
    have injective : Function.Injective UInt8.toNat := fun _ _ => UInt8.toNat_inj.mp
    rw [List.map_injective_iff.mpr injective letters]
  all_goals rfl

instance : Std.TransCmp order := by
  rw [order_eq_compareLex]
  infer_instance

instance : Std.LawfulEqCmp order where
  compare_self := Std.ReflCmp.compare_self
  eq_of_compare {a b} same := by
    rw [order_eq_compareLex, compareLex, Ordering.then_eq_eq] at same
    exact eq_of_rank_of_letters (Std.LawfulEqOrd.eq_of_compare same.1)
      (Std.LawfulEqOrd.eq_of_compare same.2)

end Component

/-- Lists of components are compared by the first difference, by induction along them. -/
theorem orderComponents_eq_compareLex
    : orderComponents = List.compareLex Component.order := by
  funext as bs
  fun_induction orderComponents as bs with
  | case1 => rfl
  | case2 => rfl
  | case3 => rfl
  | case4 a as b bs ih =>
      rw [ih, List.compareLex_cons_cons]

instance : Std.TransCmp orderComponents := by
  rw [orderComponents_eq_compareLex]
  infer_instance

instance : Std.LawfulEqCmp orderComponents := by
  rw [orderComponents_eq_compareLex]
  infer_instance

instance : Std.TransCmp order where
  eq_swap {p q} :=
    show orderComponents p.components q.components
        = (orderComponents q.components p.components).swap from
      Std.OrientedCmp.eq_swap
  isLE_trans {p q r} (first : (orderComponents p.components q.components).isLE)
      (second : (orderComponents q.components r.components).isLE) :=
    show (orderComponents p.components r.components).isLE from
      Std.TransCmp.isLE_trans first second

variable {p q r : Path}

theorem same_iff : p.same q = true ↔ p.components = q.components := beq_iff_eq

theorem order_eq_iff : p.order q = .eq ↔ p.components = q.components := by
  rw [order, Std.LawfulEqCmp.compare_eq_iff_eq]

theorem atMost_trans (first : p.atMost q = true) (second : q.atMost r = true)
    : p.atMost r = true :=
  Std.TransCmp.isLE_trans first second

theorem atMost_total (p q : Path)
    : (p.atMost q || q.atMost p) = true := by
  have swap : q.order p = (p.order q).swap := Std.OrientedCmp.eq_swap
  rw [atMost, atMost, swap]
  cases p.order q <;> rfl

end EarlyBreak.Path
