import EarlyBreak.Prediction.SourceIndex

/-! What an index of sources says about the discoveries that it was made of.  It has each of them,
up to the spelling of paths, and nothing else, so that their order does not matter.
-/

namespace EarlyBreak.SourceIndex

variable {index : SourceIndex} {found others known : List Discovery} {discovery : Discovery}
  {source : Path} {key : String}

theorem same_refl (discovery : Discovery)
    : discovery.same discovery = true := by
  simp [Discovery.same, Path.same]

theorem mem_appendNew (member : discovery ∈ known) (new : Discovery)
    : discovery ∈ appendNew known new := by
  rw [appendNew]
  split
  · exact member
  · exact List.mem_append_left _ member

theorem mem_or_eq_of_mem_appendNew {new : Discovery} (member : discovery ∈ appendNew known new)
    : discovery ∈ known ∨ discovery = new := by
  rw [appendNew] at member
  split at member
  · exact .inl member
  · exact (List.mem_append.mp member).imp_right List.mem_singleton.mp

theorem exists_same_appendNew (known : List Discovery) (new : Discovery)
    : ∃ kept ∈ appendNew known new, new.same kept = true := by
  rw [appendNew]
  split
  case isTrue twin => exact List.any_eq_true.mp twin
  case isFalse => exact ⟨new, by simp, same_refl new⟩

/-- An insertion concerns the sources with one key only. -/
theorem get_insert (index : SourceIndex) (new : Discovery) (source : Path)
    : (index.insert new).get source
      = if ScriptUrl.sourceKey source = ScriptUrl.sourceKey new.path then
          appendNew (index.get source) new
        else index.get source := by
  by_cases same : ScriptUrl.sourceKey source = ScriptUrl.sourceKey new.path
  · simp [insert, get, same, Index.find?_set]
  · simp [insert, get, same, Index.find?_set]

/-- What an index lists for a source is the discoveries of that source, each up to spelling. -/
structure Covers (index : SourceIndex) (found : List Discovery) : Prop where
  distinct : index.bySource.Unique
  keys : ∀ {key}, key ∈ index.bySource.map Prod.fst
    ↔ ∃ discovery ∈ found, ScriptUrl.sourceKey discovery.path = key
  sound : ∀ {source discovery}, discovery ∈ index.get source
    → discovery ∈ found ∧ ScriptUrl.sourceKey discovery.path = ScriptUrl.sourceKey source
  complete : ∀ {source discovery}, discovery ∈ found
    → ScriptUrl.sourceKey discovery.path = ScriptUrl.sourceKey source
    → ∃ kept ∈ index.get source, discovery.same kept = true

theorem covers_empty : empty.Covers [] where
  distinct := List.nodup_nil
  keys := by simp [empty]
  sound := by simp [empty, get, Index.find?]
  complete := by simp

/-- Inserting a discovery covers it, and what was covered before. -/
theorem Covers.insert (covers : index.Covers found) (new : Discovery)
    : (index.insert new).Covers (found ++ [new]) where
  distinct := covers.distinct.set
  keys := by
    intro key
    rw [SourceIndex.insert, Index.mem_keys_set, covers.keys]
    simp [or_comm, eq_comm]
  sound := by
    intro source discovery member
    rw [get_insert] at member
    split at member
    case isTrue same =>
      rcases mem_or_eq_of_mem_appendNew member with old | rfl
      · exact (covers.sound old).imp_left (List.mem_append_left _)
      · exact ⟨by simp, same.symm⟩
    case isFalse => exact (covers.sound member).imp_left (List.mem_append_left _)
  complete := by
    intro source discovery member same
    rw [get_insert]
    rcases List.mem_append.mp member with old | last
    · obtain ⟨kept, listed, alike⟩ := covers.complete old same
      refine ⟨kept, ?_, alike⟩
      split
      · exact mem_appendNew listed new
      · exact listed
    · obtain rfl := List.mem_singleton.mp last
      rw [if_pos same.symm]
      exact exists_same_appendNew _ discovery

/-- The index of discoveries covers them, by induction from the last one. -/
theorem covers_ofDiscoveries (found : List Discovery)
    : (ofDiscoveries found).Covers found := by
  have folded {index : SourceIndex} {before : List Discovery} (covers : index.Covers before)
      (found : List Discovery)
      : (found.foldl SourceIndex.insert index).Covers (before ++ found) := by
    induction found generalizing index before with
    | nil => simpa using covers
    | cons first rest ih => simpa using ih (covers.insert first)
  exact folded covers_empty found

/-- Two indexes list as many sources, and the same discoveries for each of them, up to the spelling
of paths and in any order.
-/
structure Agrees (index other : SourceIndex) : Prop where
  size : index.size = other.size
  listed : ∀ {source discovery}, discovery ∈ index.get source
    → ∃ twin ∈ other.get source, discovery.same twin = true
  conversely : ∀ {source discovery}, discovery ∈ other.get source
    → ∃ twin ∈ index.get source, discovery.same twin = true

/-- The order of discoveries does not matter. -/
theorem agrees_of_perm (same : found.Perm others)
    : (ofDiscoveries found).Agrees (ofDiscoveries others) := by
  have covers := covers_ofDiscoveries found
  have also := covers_ofDiscoveries others
  refine ⟨?_, ?_, ?_⟩
  · have keys : ((ofDiscoveries found).bySource.map Prod.fst).Perm
        ((ofDiscoveries others).bySource.map Prod.fst) := by
      refine (List.perm_ext_iff_of_nodup covers.distinct also.distinct).mpr fun key => ?_
      simp only [covers.keys, also.keys, same.mem_iff]
    simpa [size] using keys.length_eq
  · intro source discovery member
    obtain ⟨there, key⟩ := covers.sound member
    exact also.complete (same.mem_iff.mp there) key
  · intro source discovery member
    obtain ⟨there, key⟩ := also.sound member
    exact covers.complete (same.mem_iff.mpr there) key

end EarlyBreak.SourceIndex
