import EarlyBreak.Json.Record
import Mathlib.Data.List.Basic
import Mathlib.Data.List.Forall2
import Mathlib.Data.List.Nodup

/-! Records that are written as objects and read again.  An object in which no key comes twice has
the fields that its members give, whatever their order.
-/

namespace EarlyBreak.Json

variable {keys : List String} {extra : Extra} {members : List (String × Json)} {key : String}
  {field : Option Json} {bound n : Nat}

/-- Elements that are read one by one are read together. -/
theorem mapM_eq_some_map {α β : Type} {read : α → Option β} {f : α → β} {xs : List α}
    (reads : ∀ x ∈ xs, read x = some (f x))
    : xs.mapM read = some (xs.map f) := by
  induction xs with
  | nil => rfl
  | cons x xs ih =>
      obtain ⟨first, others⟩ := List.forall_mem_cons.mp reads
      rw [List.mapM_cons, first, ih others]
      rfl

/-- What elements are read as was read from one of them. -/
theorem exists_of_mapM_eq_some {α β : Type} {read : α → Option β} {xs : List α} {ys : List β}
    (reads : xs.mapM read = some ys)
    : ∀ y ∈ ys, ∃ x ∈ xs, read x = some y := by
  induction xs generalizing ys with
  | nil =>
      obtain rfl := Option.some.inj reads
      nofun
  | cons x xs ih =>
      simp only [List.mapM_cons, bind, Option.bind_eq_some_iff, pure, Option.some.injEq] at reads
      obtain ⟨first, here, others, later, rfl⟩ := reads
      intro y member
      rcases List.mem_cons.mp member with rfl | member
      · exact ⟨x, List.mem_cons_self, here⟩
      · obtain ⟨other, among, read⟩ := ih later y member
        exact ⟨other, List.mem_cons_of_mem x among, read⟩

/-- Elements are read together exactly if they are read one by one. -/
theorem mapM_eq_some_iff {α β : Type} {read : α → Option β} {xs : List α} {ys : List β}
    : xs.mapM read = some ys ↔ List.Forall₂ (fun x y => read x = some y) xs ys := by
  induction xs generalizing ys with
  | nil => cases ys <;> simp
  | cons x xs ih =>
      simp only [List.mapM_cons, bind, Option.bind_eq_some_iff, pure, Option.some.injEq, ih,
        List.forall₂_cons_left_iff]
      constructor
      · rintro ⟨y, here, others, later, rfl⟩
        exact ⟨y, others, here, later, rfl⟩
      · rintro ⟨y, others, here, later, rfl⟩
        exact ⟨y, here, others, later, rfl⟩

/-- The members with a key are one at most, if no key comes twice. -/
theorem filter_eq_toList_lookup (distinct : (members.map Prod.fst).Nodup) (key : String)
    : members.filter (·.1 == key) = ((members.lookup key).map (key, ·)).toList := by
  induction members with
  | nil => rfl
  | cons member rest ih =>
      obtain ⟨name, value⟩ := member
      rw [List.map_cons, List.nodup_cons] at distinct
      obtain ⟨absent, restDistinct⟩ := distinct
      by_cases same : name = key
      · subst same
        have elsewhere : rest.filter (·.1 == name) = [] := by
          rw [List.filter_eq_nil_iff]
          intro other among equal
          exact absent (List.mem_map.mpr ⟨other, among, beq_iff_eq.mp equal⟩)
        simp [elsewhere]
      · have other : (key == name) = false := beq_false_of_ne (Ne.symm same)
        simp [same, List.lookup_cons, other, ih restDistinct]

/-- The fields of an object without repeated keys are the values of its members. -/
theorem fields?_object (distinct : (members.map Prod.fst).Nodup)
    (known : extra = .ignored ∨ ∀ member ∈ members, member.1 ∈ keys)
    : fields? keys extra (.object members) = some (keys.map (members.lookup ·)) := by
  have allowed : ¬ (extra = .refused ∧ members.any (fun member => !keys.contains member.1)) := by
    rintro ⟨rfl, unknown⟩
    obtain ⟨member, among, foreign⟩ := List.any_eq_true.mp unknown
    simp [known.resolve_left nofun member among] at foreign
  rw [fields?, objectFields?, if_neg allowed]
  refine mapM_eq_some_map fun key _ => ?_
  rw [filter_eq_toList_lookup distinct key]
  cases members.lookup key <;> rfl

theorem fields?_object_of_ignored (distinct : (members.map Prod.fst).Nodup)
    : fields? keys .ignored (.object members) = some (keys.map (members.lookup ·)) :=
  fields?_object distinct (.inl rfl)

/-- What an object has under a key that comes once at most: the value there, or nothing. -/
inductive HasField (members : List (String × Json)) (key : String) : Option Json → Prop
  | absent (unknown : ∀ member ∈ members, member.1 ≠ key)
    : HasField members key none
  | only {before value after} (there : members = before ++ (key, value) :: after)
    (elsewhere : ∀ member ∈ before ++ after, member.1 ≠ key)
    : HasField members key (some value)

theorem filter_key_eq_nil_iff
    : members.filter (·.1 == key) = [] ↔ ∀ member ∈ members, member.1 ≠ key := by
  simp only [List.filter_eq_nil_iff, beq_iff_eq, ne_eq]

/-- A field is what filtering for its key leaves, one member or none. -/
theorem hasField_iff
    : HasField members key field
      ↔ members.filter (·.1 == key) = (field.map (key, ·)).toList := by
  constructor
  · intro has
    cases has with
    | absent unknown => exact filter_key_eq_nil_iff.mpr unknown
    | @only before value after there elsewhere =>
        obtain ⟨early, late⟩ := List.forall_mem_append.mp elsewhere
        rw [there, List.filter_append, filter_key_eq_nil_iff.mpr early]
        simp [filter_key_eq_nil_iff.mpr late]
  · intro found
    cases field with
    | none => exact .absent (filter_key_eq_nil_iff.mp found)
    | some value =>
        obtain ⟨before, after, there, early, -, late⟩ := List.filter_eq_cons_iff.mp found
        refine .only there (List.forall_mem_append.mpr ⟨?_, filter_key_eq_nil_iff.mp late⟩)
        exact filter_key_eq_nil_iff.mp (List.filter_eq_nil_iff.mpr early)

/-- The fields of an object are found exactly if each known key comes once at most. -/
theorem objectFields?_eq_some_iff {fields : Fields}
    : objectFields? keys .ignored members = some fields
      ↔ List.Forall₂ (HasField members) keys fields := by
  have allowed : ¬ (Extra.ignored = .refused
      ∧ members.any (fun member => !keys.contains member.1)) := by
    rintro ⟨⟨⟩, -⟩
  rw [objectFields?, if_neg allowed, mapM_eq_some_iff]
  refine iff_of_eq (congrArg (List.Forall₂ · keys fields) ?_)
  funext key field
  rw [hasField_iff, eq_iff_iff]
  have named : ∀ member ∈ members.filter (·.1 == key), member.1 = key := by
    intro member among
    exact beq_iff_eq.mp (List.mem_filter.mp among).2
  split
  case h_1 none => cases field <;> simp [none]
  case h_2 name value one =>
    have same := named (name, value) (by simp [one])
    cases field <;> simp_all
  case h_3 none many =>
    simp only [reduceCtorEq, false_iff]
    intro few
    cases field with
    | none => exact none few
    | some value => exact many key value few

@[simp]
theorem required?_some {α : Type} (read : Json → Option α) (value : Json)
    : required? read (some value) = read value := rfl

@[simp]
theorem defaulted?_some {α : Type} (default : α) (read : Json → Option α) (value : Json)
    : defaulted? default read (some value) = read value := rfl

/-- What a field has is its default or was read from a value. -/
theorem of_defaulted? {α : Type} {P : α → Prop} {default : α} {read : Json → Option α}
    {field : Option Json} {x : α} (known : defaulted? default read field = some x)
    (absent : P default) (there : ∀ value, read value = some x → P x)
    : P x := by
  cases field with
  | none =>
      obtain rfl := Option.some.inj known
      exact absent
  | some value => exact there value known

theorem natBelow?_int (small : n < bound) : natBelow? bound (.int n) = some n := by
  rw [natBelow?, if_pos ⟨Int.natCast_nonneg n, Int.ofNat_lt.mpr small⟩, Int.toNat_natCast]

theorem word32?_int (small : n < Nat.pow 2 32) : word32? (.int n) = some n := by
  rw [word32?, natBelow?_int small]

theorem word64?_int (small : n < Nat.pow 2 64) : word64? (.int n) = some n := by
  rw [word64?, natBelow?_int small]

theorem lt_of_natBelow? {value : Json} (read : natBelow? bound value = some n) : n < bound := by
  rw [natBelow?.eq_def] at read
  split at read
  case h_1 number =>
    split at read
    case isTrue within =>
      obtain rfl := Option.some.inj read
      omega
    case isFalse => cases read
  case h_2 => cases read

/-- Items are read from a list that was written item by item. -/
theorem listOf?_array {α : Type} {read : Json → Option α} {write : α → Json} {xs : List α}
    (reads : ∀ x ∈ xs, read (write x) = some x)
    : listOf? read (.array (xs.map write)) = some xs := by
  have whole : xs.mapM (read ∘ write) = some (xs.map id) := mapM_eq_some_map reads
  rw [List.map_id] at whole
  simpa only [listOf?, items?, bind, Option.bind, List.mapM_map] using whole

theorem exists_of_listOf? {α : Type} {read : Json → Option α} {value : Json} {xs : List α}
    (reads : listOf? read value = some xs)
    : ∀ x ∈ xs, ∃ item, read item = some x := by
  intro x member
  obtain ⟨items, -, known⟩ := Option.bind_eq_some_iff.mp reads
  obtain ⟨item, -, read⟩ := exists_of_mapM_eq_some known x member
  exact ⟨item, read⟩

theorem texts?_array (texts : List String) : texts? (.array (texts.map .string)) = some texts :=
  listOf?_array fun _ _ => rfl

/-- A field that may be absent is read back, unless it is written as null. -/
theorem optional?_map {α : Type} {read : Json → Option α} {write : α → Json} {value : Option α}
    (there : ∀ x ∈ value, write x ≠ .null) (reads : ∀ x ∈ value, read (write x) = some x)
    : optional? read (value.map write) = some value := by
  cases value with
  | none => rfl
  | some x => rw [Option.map_some, optional?.eq_3 _ _ (there x rfl), reads x rfl, Option.map_some]

/-- What a field has that may be absent was read from a value. -/
theorem exists_of_optional? {α : Type} {read : Json → Option α} {field : Option Json}
    {value : Option α} (known : optional? read field = some value)
    : ∀ x ∈ value, ∃ json, field = some json ∧ json ≠ .null ∧ read json = some x := by
  rintro x ⟨⟩
  unfold optional? at known
  split at known
  case h_1 => cases known
  case h_2 => cases known
  case h_3 json there =>
    obtain ⟨y, read, same⟩ := Option.map_eq_some_iff.mp known
    obtain rfl := Option.some.inj same
    exact ⟨json, rfl, fun null => there null, read⟩

end EarlyBreak.Json
