/-! The lexicographic order of lists of numbers: the first difference decides, and a list comes
after its beginnings.
-/

namespace EarlyBreak.Lexicographic

/-- Whether a list comes before another or is the same. -/
def atMost : List Nat → List Nat → Bool
  | [], _ => true
  | _ :: _, [] => false
  | a :: as, b :: bs => decide (a < b) || (a == b && atMost as bs)

/-- Whether a list comes before another. -/
def before (a b : List Nat) : Bool := !atMost b a

/-- One of two lists comes before the other or is the same, by the first difference. -/
theorem atMost_total (a b : List Nat)
    : (atMost a b || atMost b a) = true := by
  induction a generalizing b with
  | nil => simp [atMost]
  | cons x a ih =>
      cases b with
      | nil => simp [atMost]
      | cons y b =>
          have rest := ih b
          rcases Nat.lt_trichotomy x y with less | same | more
          · simp [atMost, less]
          · subst same
            simpa [atMost] using rest
          · simp [atMost, more]

/-- The order passes on, place by place. -/
theorem atMost_trans {a b c : List Nat}
    (first : atMost a b = true) (second : atMost b c = true)
    : atMost a c = true := by
  induction a generalizing b c with
  | nil => simp [atMost]
  | cons x a ih =>
      cases b with
      | nil => simp [atMost] at first
      | cons y b =>
          cases c with
          | nil => simp [atMost] at second
          | cons z c =>
              simp only [atMost, Bool.or_eq_true, Bool.and_eq_true, decide_eq_true_eq,
                beq_iff_eq] at first second ⊢
              rcases first with less | ⟨same, first⟩
              · rcases second with more | ⟨equal, _⟩
                · exact Or.inl (Nat.lt_trans less more)
                · exact Or.inl (equal ▸ less)
              · rcases second with more | ⟨equal, second⟩
                · exact Or.inl (same ▸ more)
                · exact Or.inr ⟨same.trans equal, ih first second⟩

/-- Lists that come before each other are the same, place by place. -/
theorem eq_of_atMost {a b : List Nat}
    (first : atMost a b = true) (second : atMost b a = true)
    : a = b := by
  induction a generalizing b with
  | nil =>
      cases b with
      | nil => rfl
      | cons y b => simp [atMost] at second
  | cons x a ih =>
      cases b with
      | nil => simp [atMost] at first
      | cons y b =>
          simp only [atMost, Bool.or_eq_true, Bool.and_eq_true, decide_eq_true_eq,
            beq_iff_eq] at first second
          rcases first with less | ⟨same, first⟩
          · rcases second with more | ⟨equal, _⟩
            · exact absurd more (Nat.lt_asymm less)
            · exact absurd less (equal ▸ Nat.lt_irrefl _)
          · rcases second with more | ⟨_, second⟩
            · exact absurd more (same ▸ Nat.lt_irrefl _)
            · rw [same, ih first second]

theorem atMost_of_append {a b c d : List Nat} (same : a.length = b.length)
    (order : atMost (a ++ c) (b ++ d) = true)
    : atMost a b = true := by
  induction a generalizing b with
  | nil => simp [atMost]
  | cons x a ih =>
      cases b with
      | nil => simp at same
      | cons y b =>
          simp only [List.cons_append, atMost, Bool.or_eq_true, Bool.and_eq_true,
            decide_eq_true_eq, beq_iff_eq] at order ⊢
          rcases order with less | ⟨equal, order⟩
          · exact Or.inl less
          · exact Or.inr ⟨equal, ih (Nat.succ.inj same) order⟩

end EarlyBreak.Lexicographic
