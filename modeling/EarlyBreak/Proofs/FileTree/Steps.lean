import EarlyBreak.FileTree.Replace
import Mathlib.Data.List.Basic

/-! The steps of a path: the names between its slashes.  Spellings of a path that differ in doubled
slashes and single dots have the same steps, and so has the path that its components spell.
-/

namespace EarlyBreak

namespace Path

variable {p q other : Path} {piece name : List UInt8}

/-- The names that a path goes through; `.` leads nowhere. -/
def steps (p : Path) : List (List UInt8) :=
  (p.bytes.splitOn slash).filter fun piece => piece != [] && piece != dotName

/-- A name that a file in a folder can have. -/
structure IsPlain (name : List UInt8) : Prop where
  nonempty : name ≠ []
  noSlash : slash ∉ name
  noDot : name ≠ dotName
  noDotDot : name ≠ dotDotName

/-- A name that is longer than the dots stands for itself. -/
theorem isPlain_of_length (noSlash : slash ∉ name) (long : 2 < name.length)
    : IsPlain name := by
  refine ⟨?_, noSlash, ?_, ?_⟩
  all_goals
    rintro rfl
    exact absurd long (by decide)

/-- A piece between separators contains none, by induction along the pieces. -/
theorem not_mem_of_mem_splitOn {α : Type} [BEq α] [LawfulBEq α] {sep : α} {s part : List α}
    (member : part ∈ s.splitOn sep)
    : sep ∉ part := by
  by_cases split : sep ∈ s
  · obtain ⟨first, rest, rfl, clear⟩ := List.eq_append_cons_of_mem split
    rw [List.splitOn_append_cons_self, List.splitOn_eq_singleton clear] at member
    rcases List.mem_append.mp member with here | later
    · rwa [List.mem_singleton.mp here]
    · exact not_mem_of_mem_splitOn later
  · rw [List.splitOn_eq_singleton split] at member
    rwa [List.mem_singleton.mp member]
termination_by s.length
decreasing_by all_goals simp_all; omega

theorem mem_steps (member : piece ∈ p.steps)
    : piece ≠ [] ∧ slash ∉ piece ∧ piece ≠ dotName := by
  obtain ⟨part, kept⟩ := List.mem_filter.mp member
  simp only [Bool.and_eq_true, bne_iff_ne] at kept
  exact ⟨kept.1, not_mem_of_mem_splitOn part, kept.2⟩

theorem steps_slash (first rest : List UInt8)
    : steps ⟨first ++ slash :: rest⟩ = steps ⟨first⟩ ++ steps ⟨rest⟩ := by
  simp only [steps, List.splitOn_append_cons_self, List.filter_append]

theorem steps_nil : steps ⟨[]⟩ = [] := by
  simp [steps, List.splitOn_nil]

theorem steps_piece (noSlash : slash ∉ piece)
    : steps ⟨piece⟩ = if piece = [] ∨ piece = dotName then [] else [piece] := by
  rw [steps, List.splitOn_eq_singleton noSlash]
  by_cases empty : piece = [] <;> by_cases dot : piece = dotName <;> simp [empty, dot]

/-- The steps of a joined path are those of its parts. -/
theorem steps_join (relative : other.isAbsolute = false)
    : (p.join other).steps = p.steps ++ other.steps := by
  simp only [join, relative, Bool.false_eq_true, if_false]
  split
  case isTrue bare =>
    rcases bare with empty | ending
    · simp [show p = ⟨[]⟩ from congrArg mk empty, steps_nil]
    · obtain ⟨start, same⟩ := List.getLast?_eq_some_iff.mp ending
      rw [show p = ⟨start ++ [slash]⟩ from congrArg mk same, steps_slash, steps_nil,
        List.append_nil, List.append_assoc, List.singleton_append, steps_slash]
  case isFalse => exact steps_slash p.bytes other.bytes

theorem isAbsolute_piece (noSlash : slash ∉ piece)
    : isAbsolute ⟨piece⟩ = false := by
  cases piece with
  | nil => rfl
  | cons first rest =>
      have different : first ≠ slash := fun same => noSlash (same ▸ List.mem_cons_self)
      simpa [isAbsolute] using different

theorem isAbsolute_join (relative : other.isAbsolute = false)
    : (p.join other).isAbsolute = p.isAbsolute := by
  obtain ⟨bytes⟩ := p
  cases bytes with
  | nil =>
      simp only [join, relative, Bool.false_eq_true, if_false, true_or, if_true, List.nil_append]
      rfl
  | cons first rest =>
      simp only [join, relative, Bool.false_eq_true, if_false]
      split <;> rfl

/-- The component before those of the steps. -/
def start (p : Path) : List Component :=
  if p.isAbsolute then [.root]
  else if (p.bytes.splitOn slash).head? = some dotName then [.here]
  else []

/-- The components of a path are its start and those of its steps. -/
theorem components_eq (p : Path)
    : p.components = p.start ++ p.steps.filterMap Component.ofPiece? := by
  have dropped : p.steps.filterMap Component.ofPiece?
      = (p.bytes.splitOn slash).filterMap Component.ofPiece? := by
    rw [steps, List.filterMap_filter]
    congr
    funext piece
    by_cases empty : piece = [] <;> by_cases dot : piece = dotName <;>
      simp [Component.ofPiece?, empty, dot]
  rw [dropped, components, start]
  split
  · rfl
  · split <;> rfl

/-- The components of a path say whether it is absolute. -/
theorem isAbsolute_iff : p.isAbsolute = true ↔ p.components.head? = some .root := by
  have rootless : Component.root ∉ (p.bytes.splitOn slash).filterMap Component.ofPiece? := by
    intro member
    obtain ⟨piece, -, stands⟩ := List.mem_filterMap.mp member
    unfold Component.ofPiece? at stands
    split_ifs at stands <;> cases stands
  unfold components
  simp only
  split_ifs with absolute here
  · exact iff_of_true absolute rfl
  · exact iff_of_false absolute (by simp)
  · exact iff_of_false absolute fun first => rootless (List.mem_of_mem_head? first)

theorem components_ne_nil (nonempty : p.bytes ≠ []) : p.components ≠ [] := by
  have whole : [slash].intercalate (p.bytes.splitOn slash) = p.bytes :=
    List.intercalate_splitOn slash
  unfold components
  simp only
  split_ifs with absolute here
  · exact List.cons_ne_nil _ _
  · exact List.cons_ne_nil _ _
  · cases pieces : p.bytes.splitOn slash with
    | nil => exact absurd pieces (List.splitOn_ne_nil slash p.bytes)
    | cons first more =>
        rw [pieces] at whole here
        have noDot : first ≠ dotName := fun dot => here (by rw [dot]; rfl)
        have some : first ≠ [] := by
          rintro rfl
          cases more with
          | nil => exact nonempty whole.symm
          | cons second more =>
              rw [List.intercalate_cons_cons, List.nil_append, List.singleton_append] at whole
              exact absolute (by rw [isAbsolute, ← whole]; rfl)
        have stands : Component.ofPiece? first ≠ none := by
          unfold Component.ofPiece?
          split_ifs <;> simp_all
        obtain ⟨component, stands⟩ := Option.ne_none_iff_exists'.mp stands
        rw [List.filterMap_cons_some stands]
        exact List.cons_ne_nil _ _

/-- A name among the components of a path is one of the pieces between its slashes. -/
theorem mem_splitOn_of_name (member : Component.name name ∈ p.components)
    : name ∈ p.bytes.splitOn slash := by
  have listed : Component.name name
      ∈ (p.bytes.splitOn slash).filterMap Component.ofPiece? := by
    unfold components at member
    simp only at member
    split_ifs at member <;> simpa using member
  obtain ⟨piece, among, stands⟩ := List.mem_filterMap.mp listed
  unfold Component.ofPiece? at stands
  split_ifs at stands
  · cases stands
  · cases stands
    exact among

/-- Every step stands for a component that is written as the step. -/
theorem ofPiece?_step (member : piece ∈ p.steps)
    : ∃ component, Component.ofPiece? piece = some component ∧ component.bytes = piece := by
  obtain ⟨nonempty, _, noDot⟩ := mem_steps member
  by_cases up : piece = dotDotName
  · exact ⟨.parent, by rw [up]; rfl, up.symm⟩
  · exact ⟨.name piece, by simp [Component.ofPiece?, nonempty, noDot, up], rfl⟩

theorem ofComponents_concat (front : List Component) (component : Component)
    : ofComponents (front ++ [component]) = (ofComponents front).join ⟨component.bytes⟩ := by
  simp [ofComponents]

/-- Steps that are joined to a path one after the other are appended to its own. -/
theorem steps_ofComponents_append {pieces : List (List UInt8)} (front : List Component)
    (proper : ∀ piece ∈ pieces, piece ∈ p.steps)
    : let joined := ofComponents (front ++ pieces.filterMap Component.ofPiece?)
      joined.steps = (ofComponents front).steps ++ pieces
        ∧ joined.isAbsolute = (ofComponents front).isAbsolute := by
  induction pieces generalizing front with
  | nil => simp
  | cons piece rest ih =>
      have first := proper piece List.mem_cons_self
      obtain ⟨nonempty, noSlash, noDot⟩ := mem_steps first
      obtain ⟨component, same, bytes⟩ := ofPiece?_step first
      have relative := isAbsolute_piece noSlash
      obtain ⟨steps, absolute⟩ := ih (front ++ [component])
        fun other member => proper other (List.mem_cons_of_mem _ member)
      rw [List.append_assoc, List.singleton_append] at steps absolute
      simp only [List.filterMap_cons, same]
      rw [steps, absolute, ofComponents_concat, bytes, steps_join relative,
        isAbsolute_join relative, steps_piece noSlash, if_neg (by simp [nonempty, noDot]),
        List.append_assoc, List.singleton_append]
      exact ⟨rfl, rfl⟩

theorem steps_ofComponents_start (p : Path)
    : (ofComponents p.start).steps = [] ∧ (ofComponents p.start).isAbsolute = p.isAbsolute := by
  rw [start]
  split
  case isTrue absolute => rw [absolute]; decide
  case isFalse relative =>
      rw [Bool.not_eq_true] at relative
      rw [relative]
      split <;> decide

/-- The path that the components of a path spell has the same steps. -/
theorem steps_ofComponents (p : Path)
    : (ofComponents p.components).steps = p.steps
      ∧ (ofComponents p.components).isAbsolute = p.isAbsolute := by
  obtain ⟨none, same⟩ := steps_ofComponents_start p
  obtain ⟨steps, absolute⟩ :=
    steps_ofComponents_append p.start fun piece (member : piece ∈ p.steps) => member
  rw [components_eq, steps, absolute, none, same]
  exact ⟨rfl, rfl⟩

/-- Slashes at the end add no step. -/
theorem steps_dropWhile (reversed : List UInt8)
    : steps ⟨(reversed.dropWhile (· == slash)).reverse⟩ = steps ⟨reversed.reverse⟩ := by
  induction reversed with
  | nil => rfl
  | cons byte rest ih =>
      by_cases ending : byte = slash
      · subst byte
        rw [List.dropWhile_cons_of_pos (by simp), ih, List.reverse_cons, steps_slash, steps_nil,
          List.append_nil]
      · rw [List.dropWhile_cons_of_neg (by simpa using ending)]

/-- Slashes at the end of a path are no steps. -/
theorem withoutEndSlashes_spec (nonempty : p.bytes ≠ [])
    : (FileTree.withoutEndSlashes p).bytes ≠ []
      ∧ (FileTree.withoutEndSlashes p).steps = p.steps
      ∧ (FileTree.withoutEndSlashes p).isAbsolute = p.isAbsolute := by
  have kept := steps_dropWhile p.bytes.reverse
  have split : p.bytes.reverse.takeWhile (· == slash) ++ p.bytes.reverse.dropWhile (· == slash)
      = p.bytes.reverse := List.takeWhile_append_dropWhile
  rw [FileTree.withoutEndSlashes]
  cases dropped : p.bytes.reverse.dropWhile (· == slash) with
  | nil => exact ⟨nonempty, rfl, rfl⟩
  | cons last rest =>
      rw [dropped] at kept split
      have bytes : p.bytes = (last :: rest).reverse
          ++ (p.bytes.reverse.takeWhile (· == slash)).reverse := by
        rw [← List.reverse_append, split, List.reverse_reverse]
      refine ⟨by simp, by simpa using kept, ?_⟩
      rw [isAbsolute, isAbsolute, bytes, List.head?_append_of_ne_nil _ (by simp)]

theorem start_join (nonempty : p.bytes ≠ []) (relative : other.isAbsolute = false)
    : (p.join other).start = p.start := by
  have head : ((p.join other).bytes.splitOn slash).head? = (p.bytes.splitOn slash).head? := by
    simp only [join, relative, Bool.false_eq_true, if_false, nonempty, false_or]
    split
    case isTrue ending =>
      obtain ⟨front, same⟩ := List.getLast?_eq_some_iff.mp ending
      rw [same, List.append_assoc, List.singleton_append, List.splitOn_append_cons_self,
        List.splitOn_append_cons_self, List.head?_append_of_ne_nil _ (List.splitOn_ne_nil _ _),
        List.head?_append_of_ne_nil _ (List.splitOn_ne_nil _ _)]
    case isFalse =>
      rw [List.splitOn_append_cons_self,
        List.head?_append_of_ne_nil _ (List.splitOn_ne_nil _ _)]
  simp only [start, isAbsolute_join relative, head]

/-- The path of a file in a folder ends in a slash and the name of the file. -/
theorem join_name (nonempty : p.bytes ≠ []) (noSlash : slash ∉ name)
    : ∃ front, (p.join ⟨name⟩).bytes = front ++ slash :: name ∧ steps ⟨front⟩ = p.steps := by
  simp only [join, isAbsolute_piece noSlash, Bool.false_eq_true, if_false, nonempty, false_or]
  split
  case isTrue ending =>
    obtain ⟨front, same⟩ := List.getLast?_eq_some_iff.mp ending
    refine ⟨front, by simp [same], ?_⟩
    rw [show p = ⟨front ++ [slash]⟩ from congrArg mk same, steps_slash, steps_nil, List.append_nil]
  case isFalse => exact ⟨p.bytes, rfl, rfl⟩

/-- A file in a folder has the components of the folder and its name. -/
theorem components_join (nonempty : p.bytes ≠ []) (plain : IsPlain name)
    : (p.join ⟨name⟩).components = p.components ++ [.name name] := by
  have relative := isAbsolute_piece plain.noSlash
  have named : Component.ofPiece? name = some (.name name) := by
    simp [Component.ofPiece?, plain.nonempty, plain.noDot, plain.noDotDot]
  rw [components_eq, components_eq, start_join nonempty relative, steps_join relative,
    steps_piece plain.noSlash, if_neg (by simp [plain.nonempty, plain.noDot])]
  simp [named]

end Path

end EarlyBreak
