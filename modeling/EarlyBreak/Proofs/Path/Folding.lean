import EarlyBreak.Proofs.FileTree.Steps
import EarlyBreak.Proofs.Text.Cuts

/-! Where a path leads when it is read on its own, without the links of a file tree.  Folding dots
keeps that from every start, and comes to a text without any dots to fold.  There is only one such
text, so the normal form of a path is the same however the path is spelled.
-/

namespace EarlyBreak.Path

open Text (intercalate_cons)

-----------------------------------------------------------------------------------------
-- Where components lead to
-----------------------------------------------------------------------------------------

/-- The place that a component leads to.  A `..` takes back the name before it; at the root there is
none to take back.
-/
def Component.enter (place : Place) : Component → Place
  | .root => []
  | .here => place
  | .parent => place.dropLast
  | .name bytes => place ++ [bytes]

/-- The place that components lead to, one after the other. -/
def follow (start : Place) (components : List Component) : Place :=
  components.foldl Component.enter start

/-- The place that a path leads to from a start. -/
def placeFrom (p : Path) (start : Place) : Place := follow start p.components

variable {p q : Path} {start : Place} {components folded : List Component} {name : FileName}
  {names : List FileName} {pieces : List (List UInt8)}

theorem follow_append (start : Place) (components more : List Component)
    : follow start (components ++ more) = follow (follow start components) more :=
  List.foldl_append

/-- The steps of a path decide where it leads to, from the root if it is absolute. -/
theorem placeFrom_eq (p : Path) (start : Place)
    : p.placeFrom start
      = follow (if p.isAbsolute then [] else start) (p.steps.filterMap Component.ofPiece?) := by
  have begin : follow start p.start = if p.isAbsolute then [] else start := by
    unfold Path.start
    split
    case isTrue => rfl
    case isFalse => split <;> rfl
  rw [placeFrom, components_eq, follow_append, begin]

/-- A joined path leads on from where its first part leads to. -/
theorem placeFrom_join (relative : q.isAbsolute = false) (start : Place)
    : (p.join q).placeFrom start = q.placeFrom (p.placeFrom start) := by
  simp only [placeFrom_eq, steps_join relative, isAbsolute_join relative, List.filterMap_append,
    follow_append, relative, Bool.false_eq_true, if_false]

theorem follow_names (start : Place) (names : List FileName)
    : follow start (names.map .name) = start ++ names := by
  induction names generalizing start with
  | nil => simp [follow]
  | cons name names ih =>
      have rest := ih (start ++ [name])
      simpa [follow, Component.enter] using rest

theorem length_follow_parents (start : Place) (ups : Nat)
    : (follow start (List.replicate ups .parent)).length = start.length - ups := by
  induction ups generalizing start with
  | zero => rfl
  | succ ups ih =>
      have rest := ih start.dropLast
      simp only [follow, List.replicate_succ, List.foldl_cons, Component.enter] at rest ⊢
      rw [rest, List.length_dropLast]
      omega

/-- Components other than the root leave all of a start but its last names. -/
theorem length_follow (unrooted : .root ∉ components) (start : Place)
    : start.length ≤ (follow start components).length + components.length := by
  induction components generalizing start with
  | nil => simp [follow]
  | cons component components ih =>
      obtain ⟨other, unrooted⟩ := not_or.mp (mt List.mem_cons.mpr unrooted)
      have rest := ih unrooted (Component.enter start component)
      have first : start.length ≤ (Component.enter start component).length + 1 := by
        cases component with
        | root => exact absurd rfl other
        | here => exact Nat.le_succ _
        | parent =>
            simp only [Component.enter, List.length_dropLast]
            omega
        | name bytes =>
            simp only [Component.enter, List.length_append]
            omega
      simp only [follow, List.foldl_cons, List.length_cons] at rest ⊢
      omega

theorem root_not_mem_filterMap (pieces : List (List UInt8))
    : .root ∉ pieces.filterMap Component.ofPiece? := by
  simp only [List.mem_filterMap, not_exists, not_and]
  intro piece _ stands
  unfold Component.ofPiece? at stands
  split_ifs at stands <;> cases stands

/-- A path is absolute exactly if it leads to one place from wherever it starts. -/
theorem isAbsolute_iff_placeFrom
    : p.isAbsolute = true ↔ ∀ start, p.placeFrom start = p.placeFrom [] := by
  constructor
  · intro absolute start
    simp [placeFrom_eq, absolute]
  · intro constant
    by_contra relative
    -- A start that is longer than that place and all steps together is not used up.
    let steps := p.steps.filterMap Component.ofPiece?
    let start : Place := List.replicate ((p.placeFrom []).length + steps.length + 1) []
    have kept := length_follow (root_not_mem_filterMap p.steps) start
    have same := constant start
    simp only [placeFrom_eq p start, relative, if_false] at same
    simp only [same, start, List.length_replicate, steps] at kept
    omega

-----------------------------------------------------------------------------------------
-- Folding dots
-----------------------------------------------------------------------------------------

/-- Folding a component into those before it leads to the same place as the component itself. -/
theorem follow_foldDot (start : Place) (folded : List Component) (component : Component)
    : follow start (foldDot folded component).reverse
      = Component.enter (follow start folded.reverse) component := by
  unfold foldDot
  split
  case h_1 => rfl
  case h_2 => rfl
  case h_3 => simp [follow, Component.enter]
  case h_4 =>
    split
    case h_1 => simp [follow, Component.enter]
    case h_2 => rfl
    case h_3 => simp [follow, Component.enter]

/-- Folding the dots changes nothing about where the components lead to. -/
theorem follow_foldDots (start : Place) (components : List Component)
    : follow start (foldDots components) = follow start components := by
  have onto (folded : List Component)
      : follow start (components.foldl foldDot folded).reverse
        = follow (follow start folded.reverse) components := by
    induction components generalizing folded with
    | nil => rfl
    | cons component components ih =>
        rw [List.foldl_cons, ih, follow_foldDot]
        rfl
  exact onto []

/-- Components without dots to fold, the last one first: names, and before them the root or some
`..`.
-/
inductive IsFolded : List Component → Prop
  | absolute (names : List FileName) (plain : ∀ name ∈ names, IsPlain name)
    : IsFolded (names.map .name ++ [.root])
  | relative (ups : Nat) (names : List FileName) (plain : ∀ name ∈ names, IsPlain name)
    : IsFolded (names.map .name ++ List.replicate ups .parent)

/-- Folding a component leaves no dots to fold: a `..` finds a name to take back, the root, or
nothing but other `..`.
-/
theorem IsFolded.foldDot {component : Component} (isFolded : IsFolded folded)
    (plain : ∀ name, component = .name name → IsPlain name)
    : IsFolded (foldDot folded component) := by
  cases component with
  | root => exact .absolute [] nofun
  | here => exact isFolded
  | name bytes =>
      have first := plain bytes rfl
      cases isFolded with
      | absolute names others =>
          exact .absolute (bytes :: names) (List.forall_mem_cons.mpr ⟨first, others⟩)
      | relative ups names others =>
          exact .relative ups (bytes :: names) (List.forall_mem_cons.mpr ⟨first, others⟩)
  | parent =>
      cases isFolded with
      | absolute names others =>
          cases names with
          | nil => exact .absolute [] nofun
          | cons first names => exact .absolute names (List.forall_mem_cons.mp others).2
      | relative ups names others =>
          cases names with
          | nil =>
              cases ups with
              | zero => exact .relative 1 [] nofun
              | succ ups => exact .relative (ups + 2) [] nofun
          | cons first names => exact .relative ups names (List.forall_mem_cons.mp others).2

/-- Folding component by component leaves what is folded so far folded. -/
theorem isFolded_foldl (plain : ∀ name, .name name ∈ components → IsPlain name)
    (isFolded : IsFolded folded)
    : IsFolded (components.foldl Path.foldDot folded) := by
  induction components generalizing folded with
  | nil => exact isFolded
  | cons component components ih =>
      refine ih (fun name member => plain name (List.mem_cons_of_mem _ member)) ?_
      exact isFolded.foldDot fun name same => plain name (same ▸ List.mem_cons_self)

theorem isPlain_of_name (member : .name name ∈ p.components)
    : IsPlain name := by
  have noSlash := not_mem_of_mem_splitOn (mem_splitOn_of_name member)
  have listed : Component.name name ∈ p.steps.filterMap Component.ofPiece? := by
    rw [components_eq] at member
    rcases List.mem_append.mp member with first | rest
    · unfold Path.start at first
      split_ifs at first <;> simp at first
    · exact rest
  obtain ⟨piece, -, stands⟩ := List.mem_filterMap.mp listed
  unfold Component.ofPiece? at stands
  split_ifs at stands with idle up
  case pos => cases stands
  case neg =>
    obtain rfl := Component.name.inj (Option.some.inj stands)
    exact ⟨fun empty => idle (Or.inl empty), noSlash, fun dot => idle (Or.inr dot), up⟩

-----------------------------------------------------------------------------------------
-- Normal forms
-----------------------------------------------------------------------------------------

/-- A path in normal form: behind the root, or behind some `..`, names with single slashes between
them.
-/
inductive IsNormal : Path → Prop
  | absolute (names : List FileName) (plain : ∀ name ∈ names, IsPlain name)
    : IsNormal ⟨slash :: [slash].intercalate names⟩
  | relative (ups : Nat) (names : List FileName) (plain : ∀ name ∈ names, IsPlain name)
    : IsNormal ⟨[slash].intercalate (List.replicate ups dotDotName ++ names)⟩

/-- A piece of a path that counts as a step. -/
def IsStep (piece : List UInt8) : Prop := piece ≠ [] ∧ slash ∉ piece ∧ piece ≠ dotName

theorem IsPlain.isStep (plain : IsPlain name)
    : IsStep name :=
  ⟨plain.nonempty, plain.noSlash, plain.noDot⟩

theorem isStep_of_relative (plain : ∀ name ∈ names, IsPlain name) (ups : Nat)
    : ∀ piece ∈ List.replicate ups dotDotName ++ names, IsStep piece := by
  intro piece member
  rcases List.mem_append.mp member with up | named
  · rw [List.eq_of_mem_replicate up]
    exact ⟨by decide, by decide, by decide⟩
  · exact (plain piece named).isStep

theorem getLast?_of_isStep {piece : List UInt8} (isStep : IsStep piece) (front : List UInt8)
    : (front ++ piece).getLast? ≠ some slash := by
  obtain ⟨nonempty, noSlash, -⟩ := isStep
  intro ends
  rw [List.getLast?_append_of_ne_nil front nonempty] at ends
  exact noSlash (List.mem_of_getLast? ends)

/-- Steps that are joined to a path one after the other are written behind slashes. -/
theorem foldl_join (nonempty : p.bytes ≠ []) (closed : p.bytes.getLast? ≠ some slash)
    (steps : ∀ piece ∈ components.map Component.bytes, IsStep piece)
    : components.foldl (fun path component => path.join ⟨component.bytes⟩) p
      = ⟨p.bytes ++ components.flatMap (slash :: ·.bytes)⟩ := by
  induction components generalizing p with
  | nil => simp
  | cons component components ih =>
      obtain ⟨first, others⟩ := List.forall_mem_cons.mp steps
      have joined : p.join ⟨component.bytes⟩ = ⟨(p.bytes ++ [slash]) ++ component.bytes⟩ := by
        simp [join, isAbsolute_piece first.2.1, nonempty, closed]
      have closedAgain := getLast?_of_isStep first (p.bytes ++ [slash])
      rw [List.foldl_cons, joined, ih (by simp) closedAgain others]
      simp

theorem ofComponents_steps (steps : ∀ piece ∈ components.map Component.bytes, IsStep piece)
    : ofComponents components = ⟨[slash].intercalate (components.map Component.bytes)⟩ := by
  cases components with
  | nil => rfl
  | cons component components =>
      obtain ⟨first, others⟩ := List.forall_mem_cons.mp steps
      have joined : (⟨[]⟩ : Path).join ⟨component.bytes⟩ = ⟨component.bytes⟩ := by
        simp [join, isAbsolute_piece first.2.1]
      have rest := foldl_join (p := ⟨component.bytes⟩) first.1 (getLast?_of_isStep first []) others
      rw [ofComponents, List.foldl_cons, joined, rest, List.map_cons, intercalate_cons,
        List.flatMap_map]

theorem ofComponents_root (steps : ∀ piece ∈ components.map Component.bytes, IsStep piece)
    : ofComponents (.root :: components)
      = ⟨slash :: [slash].intercalate (components.map Component.bytes)⟩ := by
  cases components with
  | nil => rfl
  | cons component components =>
      obtain ⟨first, others⟩ := List.forall_mem_cons.mp steps
      have root : (⟨[]⟩ : Path).join ⟨Component.root.bytes⟩ = ⟨[slash]⟩ := rfl
      have joined : (⟨[slash]⟩ : Path).join ⟨component.bytes⟩ = ⟨[slash] ++ component.bytes⟩ := by
        simp [join, isAbsolute_piece first.2.1]
      have closed := getLast?_of_isStep first [slash]
      rw [ofComponents, List.foldl_cons, root, List.foldl_cons, joined,
        foldl_join (by simp) closed others, List.map_cons, intercalate_cons, List.flatMap_map]
      rfl

-----------------------------------------------------------------------------------------
-- Where normal forms lead to
-----------------------------------------------------------------------------------------

theorem steps_intercalate (steps : ∀ piece ∈ pieces, IsStep piece)
    : Path.steps ⟨[slash].intercalate pieces⟩ = pieces := by
  by_cases none : pieces = []
  · subst none
    exact steps_nil
  · have split := List.splitOn_intercalate slash (fun piece member => (steps piece member).2.1) none
    rw [Path.steps, split, List.filter_eq_self]
    intro piece member
    simp [(steps piece member).1, (steps piece member).2.2]

theorem steps_slash_cons (bytes : List UInt8)
    : Path.steps ⟨slash :: bytes⟩ = Path.steps ⟨bytes⟩ := by
  have cut := steps_slash [] bytes
  rwa [steps_nil, List.nil_append, List.nil_append] at cut

theorem filterMap_names (plain : ∀ name ∈ names, IsPlain name)
    : names.filterMap Component.ofPiece? = names.map Component.name := by
  induction names with
  | nil => rfl
  | cons name names ih =>
      obtain ⟨first, others⟩ := List.forall_mem_cons.mp plain
      have named : Component.ofPiece? name = some (.name name) := by
        simp [Component.ofPiece?, first.nonempty, first.noDot, first.noDotDot]
      rw [List.filterMap_cons_some named, ih others, List.map_cons]

theorem components_absolute (plain : ∀ name ∈ names, IsPlain name)
    : Path.components ⟨slash :: [slash].intercalate names⟩ = .root :: names.map .name := by
  have absolute : isAbsolute ⟨slash :: [slash].intercalate names⟩ = true := rfl
  have steps := steps_intercalate fun name member => (plain name member).isStep
  rw [components_eq, Path.start, if_pos absolute, steps_slash_cons, steps, filterMap_names plain]
  rfl

theorem placeFrom_absolute (plain : ∀ name ∈ names, IsPlain name) (start : Place)
    : placeFrom ⟨slash :: [slash].intercalate names⟩ start = names := by
  have entered : follow start (.root :: names.map .name) = follow [] (names.map .name) := rfl
  rw [placeFrom, components_absolute plain, entered, follow_names, List.nil_append]

theorem isAbsolute_intercalate (steps : ∀ piece ∈ pieces, IsStep piece)
    : isAbsolute ⟨[slash].intercalate pieces⟩ = false := by
  cases pieces with
  | nil => rfl
  | cons first pieces =>
      obtain ⟨nonempty, noSlash, -⟩ := steps first List.mem_cons_self
      have relative := isAbsolute_piece noSlash
      rw [isAbsolute] at relative ⊢
      rwa [intercalate_cons, List.head?_append_of_ne_nil _ nonempty]

theorem placeFrom_relative (plain : ∀ name ∈ names, IsPlain name) (ups : Nat) (start : Place)
    : placeFrom ⟨[slash].intercalate (List.replicate ups dotDotName ++ names)⟩ start
      = follow start (List.replicate ups .parent) ++ names := by
  have isStep := isStep_of_relative plain ups
  have parents : (List.replicate ups dotDotName).filterMap Component.ofPiece?
      = List.replicate ups .parent := by
    have one : Component.ofPiece? dotDotName = some .parent := rfl
    rw [List.filterMap_replicate_of_some one]
  rw [placeFrom_eq, isAbsolute_intercalate isStep, steps_intercalate isStep,
    List.filterMap_append, parents, filterMap_names plain, follow_append, follow_names]
  rfl

/-- Paths in normal form lead to the same place from everywhere only if they have the same text: an
absolute one leads to its names, and for a relative one the places say how far up it goes first.
-/
theorem IsNormal.eq_of_placeFrom (normal : p.IsNormal) (also : q.IsNormal)
    (same : ∀ start, p.placeFrom start = q.placeFrom start)
    : p = q := by
  have kind : p.isAbsolute = true ↔ q.isAbsolute = true := by
    simp only [isAbsolute_iff_placeFrom, same]
  cases normal with
  | absolute names plain =>
      cases also with
      | absolute others alike =>
          have places := same []
          rw [placeFrom_absolute plain, placeFrom_absolute alike] at places
          rw [places]
      | relative ups others alike =>
          rw [isAbsolute_intercalate (isStep_of_relative alike ups)] at kind
          cases kind.mp rfl
  | relative ups names plain =>
      cases also with
      | absolute others alike =>
          rw [isAbsolute_intercalate (isStep_of_relative plain ups)] at kind
          cases kind.mpr rfl
      | relative upsToo others alike =>
          have top (ups : Nat) : follow [] (List.replicate ups .parent) = [] :=
            List.length_eq_zero_iff.mp ((length_follow_parents [] ups).trans (Nat.zero_sub ups))
          have places := same []
          rw [placeFrom_relative plain, placeFrom_relative alike, top, top, List.nil_append,
            List.nil_append] at places
          subst places
          have far := congrArg List.length (same (List.replicate (ups + upsToo) []))
          simp only [placeFrom_relative plain, List.length_append, length_follow_parents,
            List.length_replicate] at far
          obtain rfl : ups = upsToo := by omega
          rfl

/-- Components without dots to fold spell a path in normal form, which leads where they do. -/
theorem IsFolded.spells (isFolded : IsFolded folded)
    : (ofComponents folded.reverse).IsNormal
      ∧ ∀ start, (ofComponents folded.reverse).placeFrom start = follow start folded.reverse := by
  cases isFolded with
  | absolute names plain =>
      have plain : ∀ name ∈ names.reverse, IsPlain name := by simpa using plain
      have bytes : (names.reverse.map Component.name).map Component.bytes = names.reverse := by
        simp [Function.comp_def, Component.bytes]
      have steps : ∀ piece ∈ (names.reverse.map Component.name).map Component.bytes,
          IsStep piece := by
        rw [bytes]
        exact fun name member => (plain name member).isStep
      rw [List.reverse_append, List.reverse_singleton, List.singleton_append, ← List.map_reverse,
        ofComponents_root steps, bytes]
      refine ⟨.absolute names.reverse plain, fun start => ?_⟩
      rw [placeFrom_absolute plain]
      exact (follow_names [] names.reverse).symm
  | relative ups names plain =>
      have plain : ∀ name ∈ names.reverse, IsPlain name := by simpa using plain
      have bytes : (List.replicate ups Component.parent ++ names.reverse.map Component.name).map
          Component.bytes = List.replicate ups dotDotName ++ names.reverse := by
        simp [Function.comp_def, Component.bytes]
      have steps := isStep_of_relative plain ups
      rw [← bytes] at steps
      rw [List.reverse_append, List.reverse_replicate, ← List.map_reverse,
        ofComponents_steps steps, bytes]
      refine ⟨.relative ups names.reverse plain, fun start => ?_⟩
      rw [placeFrom_relative plain, follow_append, follow_names]

/-- A normalized path is in normal form, and leads to where the path does. -/
theorem spells_normalize (p : Path)
    : p.normalize.IsNormal ∧ ∀ start, p.normalize.placeFrom start = p.placeFrom start := by
  have start : IsFolded [] := .relative 0 [] nofun
  obtain ⟨normal, places⟩ := (isFolded_foldl (fun name => isPlain_of_name) start).spells
  refine ⟨normal, fun start => (places start).trans ?_⟩
  exact follow_foldDots start p.components

/-- The normal form is the only path in normal form that leads where a path leads. -/
theorem IsNormal.eq_normalize (normal : q.IsNormal)
    (same : ∀ start, q.placeFrom start = p.placeFrom start)
    : q = p.normalize := by
  obtain ⟨also, places⟩ := spells_normalize p
  exact normal.eq_of_placeFrom also fun start => (same start).trans (places start).symm

/-- A path in normal form is its own normal form. -/
theorem IsNormal.normalize_eq (normal : p.IsNormal)
    : p.normalize = p :=
  (normal.eq_normalize fun _ => rfl).symm

/-- Paths that lead to the same place from everywhere have one normal form. -/
theorem normalize_congr (same : ∀ start, p.placeFrom start = q.placeFrom start)
    : p.normalize = q.normalize := by
  obtain ⟨normal, places⟩ := spells_normalize p
  exact normal.eq_normalize fun start => (places start).trans (same start)

/-- Folding the dots of a path leads to the same place from everywhere, and comes to a text of names
between single slashes, behind the root or behind some `..`.  No other such text leads there, so
folding again changes nothing, and it makes no difference whether a path is folded before another is
joined to it.
-/
theorem normalize_folds (p : Path)
    : (∀ start, p.normalize.placeFrom start = p.placeFrom start)
      ∧ p.normalize.IsNormal
      ∧ p.normalize.isAbsolute = p.isAbsolute
      ∧ p.normalize.normalize = p.normalize
      ∧ (∀ q : Path,
          q.isAbsolute = false → (p.join q).normalize = (p.normalize.join q).normalize)
      ∧ ∀ q : Path,
          q.IsNormal → (∀ start, q.placeFrom start = p.placeFrom start) → q = p.normalize := by
  obtain ⟨normal, places⟩ := spells_normalize p
  refine ⟨places, normal, ?_, normal.normalize_eq, ?_, fun q => IsNormal.eq_normalize⟩
  · rw [Bool.eq_iff_iff, isAbsolute_iff_placeFrom, isAbsolute_iff_placeFrom]
    simp only [places]
  · intro q relative
    refine normalize_congr fun start => ?_
    rw [placeFrom_join relative, placeFrom_join relative, places]

/-- Leading dots of a relative path stay, and a name takes the dots behind it with it. -/
example : (Path.ofString "../a/./b/../c.ts").normalize = Path.ofString "../a/c.ts" := by
  decide +kernel

end EarlyBreak.Path
