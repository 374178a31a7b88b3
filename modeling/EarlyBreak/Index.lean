/-! Finite maps as lists of pairs.  A key is set in place, so that no key comes twice. -/

namespace EarlyBreak

/-- A finite map: pairs of keys and values, each key once. -/
abbrev Index (α β : Type) := List (α × β)

namespace Index

variable {α β : Type} [DecidableEq α]

/-- The value of a key. -/
def find? (key : α) : Index α β → Option β
  | [] => none
  | (other, value) :: rest => if other = key then some value else find? key rest

/-- Whether a key has a value. -/
def has (key : α) (index : Index α β) : Bool := (index.find? key).isSome

/-- The map with the value of a key set. -/
def set (key : α) (value : β) : Index α β → Index α β
  | [] => [(key, value)]
  | (other, old) :: rest =>
      if other = key then (key, value) :: rest else (other, old) :: set key value rest

/-- The map without a key. -/
def unset (key : α) : Index α β → Index α β
  | [] => []
  | (other, value) :: rest =>
      if other = key then unset key rest else (other, value) :: unset key rest

/-- A key that was set is found, at its place in the list. -/
theorem find?_set_self (key : α) (value : β) (index : Index α β)
    : (index.set key value).find? key = some value := by
  induction index with
  | nil => simp [set, find?]
  | cons pair rest ih =>
      obtain ⟨other, old⟩ := pair
      by_cases same : other = key <;> simp [set, find?, same, ih]

/-- Setting a key leaves the others as they are, place by place. -/
theorem find?_set_of_ne {key other : α} (different : other ≠ key) (value : β)
    (index : Index α β)
    : (index.set key value).find? other = index.find? other := by
  induction index with
  | nil => simp [set, find?, different.symm]
  | cons pair rest ih =>
      obtain ⟨first, old⟩ := pair
      by_cases same : first = key
      · simp [set, find?, same, different.symm]
      · by_cases wanted : first = other <;> simp [set, find?, same, wanted, different, ih]

/-- A key that was taken out is not found, at any place. -/
theorem find?_unset_self (key : α) (index : Index α β)
    : (index.unset key).find? key = none := by
  induction index with
  | nil => rfl
  | cons pair rest ih =>
      obtain ⟨other, old⟩ := pair
      by_cases same : other = key <;> simp [unset, find?, same, ih]

/-- Taking out a key leaves the others as they are, place by place. -/
theorem find?_unset_of_ne {key other : α} (different : other ≠ key) (index : Index α β)
    : (index.unset key).find? other = index.find? other := by
  induction index with
  | nil => rfl
  | cons pair rest ih =>
      obtain ⟨first, old⟩ := pair
      by_cases same : first = key
      · simp [unset, find?, same, different.symm, ih]
      · by_cases wanted : first = other <;> simp [unset, find?, same, wanted, different, ih]

/-- What is found once a key is set: the new value for it, and what was there for the others. -/
theorem find?_set (key other : α) (value : β) (index : Index α β)
    : (index.set key value).find? other
      = if other = key then some value else index.find? other := by
  by_cases same : other = key
  · rw [if_pos same, same, find?_set_self]
  · rw [if_neg same, find?_set_of_ne same]

/-- What is found once a key is taken out: nothing for it, and what was there for the others. -/
theorem find?_unset (key other : α) (index : Index α β)
    : (index.unset key).find? other = if other = key then none else index.find? other := by
  by_cases same : other = key
  · rw [if_pos same, same, find?_unset_self]
  · rw [if_neg same, find?_unset_of_ne same]

/-- A key has a value exactly if one is found. -/
theorem has_iff {key : α} {index : Index α β}
    : index.has key = true ↔ ∃ value, index.find? key = some value := by
  rw [has, Option.isSome_iff_exists]

/-- Setting several keys to one value leaves the keys outside the list as they are. -/
theorem find?_foldl_set (keys : List α) (other : α) (value : β) (index : Index α β)
    : (keys.foldl (fun index key => index.set key value) index).find? other
      = if other ∈ keys then some value else index.find? other := by
  induction keys generalizing index with
  | nil => simp
  | cons key rest ih =>
      rw [List.foldl_cons, ih, find?_set]
      by_cases later : other ∈ rest <;> by_cases same : other = key <;> simp [later, same]

/-- No key comes twice. -/
def Unique (index : Index α β) : Prop := (index.map Prod.fst).Nodup

/-- The keys after setting one are the old ones and that one. -/
theorem mem_keys_set {key other : α} {value : β} {index : Index α β}
    : other ∈ (index.set key value).map Prod.fst
      ↔ other = key ∨ other ∈ index.map Prod.fst := by
  induction index with
  | nil => simp [set]
  | cons pair rest ih =>
      obtain ⟨first, old⟩ := pair
      by_cases same : first = key
      · simp [set, same]
      · simp only [set, same, if_false, List.map_cons, List.mem_cons, ih]
        exact or_left_comm

/-- Setting a key in place repeats no key, by induction along the list. -/
theorem Unique.set {key : α} {value : β} {index : Index α β} (unique : index.Unique)
    : (index.set key value).Unique := by
  induction index with
  | nil => simp [Unique, Index.set]
  | cons pair rest ih =>
      obtain ⟨first, old⟩ := pair
      obtain ⟨absent, restUnique⟩ := List.nodup_cons.mp unique
      by_cases same : first = key
      · subst first
        simpa only [Unique, Index.set, if_true, List.map_cons, List.nodup_cons]
          using And.intro absent restUnique
      · simp only [Unique, Index.set, same, if_false, List.map_cons, List.nodup_cons]
        refine ⟨?_, ih restUnique⟩
        intro member
        rcases mem_keys_set.mp member with equal | old
        · exact same equal
        · exact absent old

/-- What is left once a key is taken out is a part of the list. -/
theorem unset_sublist (key : α) (index : Index α β) : (index.unset key).Sublist index := by
  induction index with
  | nil => exact .slnil
  | cons pair rest ih =>
      obtain ⟨first, old⟩ := pair
      by_cases same : first = key
      · simpa only [unset, same, if_true] using ih.cons _
      · simpa only [unset, same, if_false] using ih.cons_cons _

/-- Taking out a key repeats no key, as only parts of the list are left. -/
theorem Unique.unset {key : α} {index : Index α β} (unique : index.Unique)
    : (index.unset key).Unique :=
  List.Nodup.sublist ((unset_sublist key index).map Prod.fst) unique

/-- In a map without repeated keys the pairs are exactly what is found. -/
theorem Unique.mem_iff {key : α} {value : β} {index : Index α β} (unique : index.Unique)
    : (key, value) ∈ index ↔ index.find? key = some value := by
  induction index with
  | nil => simp [find?]
  | cons pair rest ih =>
      obtain ⟨first, old⟩ := pair
      obtain ⟨absent, restUnique⟩ := List.nodup_cons.mp unique
      by_cases same : first = key
      · subst first
        have elsewhere : (key, value) ∉ rest :=
          fun member => absent (List.mem_map.mpr ⟨(key, value), member, rfl⟩)
        simp [find?, elsewhere, eq_comm]
      · have different : key ≠ first := fun equal => same equal.symm
        simp [find?, same, different, ih restUnique]

end Index

end EarlyBreak
