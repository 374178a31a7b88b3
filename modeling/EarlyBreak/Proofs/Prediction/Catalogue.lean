import EarlyBreak.Proofs.Path.Order
import EarlyBreak.Proofs.Prediction.SourceIndex

/-! An index as a catalogue of the discoveries that it was made of.  It has each of them once, up to
the spelling of paths, and lists the compiled files of a source in strictly increasing order.
-/

namespace EarlyBreak

/-- What there is to a discovery up to the spelling of its paths. -/
def Discovery.content (discovery : Discovery) :
    String × List Path.Component × List Path.Component × String × Nat :=
  let file := discovery.file
  (discovery.sourceUrl, discovery.path.components, file.path.components, file.mapUrl, file.modified)

theorem Discovery.same_iff {a b : Discovery} : a.same b = true ↔ a.content = b.content := by
  simp [same, content, Path.same, and_assoc]

namespace SourceIndex

variable {index : SourceIndex} {found others known : List Discovery} {source : Path}
  {paths : List Path}

theorem nodup_appendNew (once : (known.map Discovery.content).Nodup) (new : Discovery)
    : ((appendNew known new).map Discovery.content).Nodup := by
  rw [appendNew]
  split
  case isTrue => exact once
  case isFalse absent =>
    rw [List.map_append, List.map_singleton]
    refine List.nodup_append.mpr ⟨once, List.nodup_singleton _, ?_⟩
    intro content member other last twin
    obtain ⟨old, listed, rfl⟩ := List.mem_map.mp member
    rw [List.mem_singleton.mp last] at twin
    exact absent (List.any_eq_true.mpr ⟨old, listed, Discovery.same_iff.mpr twin.symm⟩)

/-- No discovery comes twice, by induction along the arrivals. -/
theorem nodup_ofDiscoveries (found : List Discovery) (source : Path)
    : (((ofDiscoveries found).get source).map Discovery.content).Nodup := by
  have folded {index : SourceIndex} (once : ((index.get source).map Discovery.content).Nodup)
      : (((found.foldl insert index).get source).map Discovery.content).Nodup := by
    induction found generalizing index with
    | nil => exact once
    | cons first rest ih =>
        refine ih ?_
        rw [get_insert]
        split
        · exact nodup_appendNew once first
        · exact once
  exact folded List.nodup_nil

/-- What is listed for a source is what was discovered under its key. -/
theorem Covers.mem_content_iff (covers : index.Covers found)
    {content : String × List Path.Component × List Path.Component × String × Nat}
    : content ∈ (index.get source).map Discovery.content
      ↔ ∃ discovery ∈ found,
          ScriptUrl.sourceKey discovery.path = ScriptUrl.sourceKey source
          ∧ discovery.content = content := by
  rw [List.mem_map]
  constructor
  · rintro ⟨discovery, listed, rfl⟩
    obtain ⟨there, key⟩ := covers.sound listed
    exact ⟨discovery, there, key, rfl⟩
  · rintro ⟨discovery, there, key, rfl⟩
    obtain ⟨kept, listed, same⟩ := covers.complete there key
    exact ⟨kept, listed, (Discovery.same_iff.mp same).symm⟩

/-- An index counts the keys of the sources that were found. -/
theorem Covers.size_eq (covers : index.Covers found)
    : index.size
      = (found.map fun discovery => ScriptUrl.sourceKey discovery.path).dedup.length := by
  have keys : (index.bySource.map Prod.fst).Perm
      (found.map fun discovery => ScriptUrl.sourceKey discovery.path).dedup := by
    refine (List.perm_ext_iff_of_nodup covers.distinct (List.nodup_dedup _)).mpr fun key => ?_
    rw [covers.keys, List.mem_dedup, List.mem_map]
  simpa [size] using keys.length_eq

theorem mem_of_mem_distinct {p : Path} (member : p ∈ distinct paths)
    : p ∈ paths := by
  fun_induction distinct paths with
  | case1 first second rest same ih =>
      exact (List.mem_cons.mp (ih member)).elim (· ▸ List.mem_cons_self)
        fun later => List.mem_cons_of_mem _ (List.mem_cons_of_mem _ later)
  | case2 first second rest different ih =>
      exact (List.mem_cons.mp member).elim (· ▸ List.mem_cons_self)
        fun later => List.mem_cons_of_mem _ (ih later)
  | case3 => exact member

/-- Only repetitions are left out. -/
theorem mem_components_distinct {components : List Path.Component}
    : components ∈ (distinct paths).map Path.components
      ↔ components ∈ paths.map Path.components := by
  fun_induction distinct paths with
  | case1 first second rest same ih =>
      rw [ih, List.map_cons, List.map_cons, List.map_cons, ← Path.same_iff.mp same,
        List.mem_cons, List.mem_cons, List.mem_cons, ← or_assoc, or_self]
  | case2 first second rest different ih =>
      rw [List.map_cons, List.mem_cons, ih]
      exact List.mem_cons.symm
  | case3 => exact Iff.rfl

/-- In a sorted list repetitions stand side by side, so what is left increases strictly. -/
theorem distinct_increasing (sorted : paths.Pairwise fun p q => p.atMost q = true)
    : (distinct paths).Pairwise fun p q => p.order q = .lt := by
  fun_induction distinct paths with
  | case1 first second rest same ih =>
      exact ih (sorted.sublist (.cons_cons _ (.cons _ (.refl rest))))
  | case2 first second rest different ih =>
      obtain ⟨before, later⟩ := List.pairwise_cons.mp sorted
      refine List.pairwise_cons.mpr ⟨fun p member => ?_, ih later⟩
      have next : first.order second = .lt := by
        have least := before second List.mem_cons_self
        rw [Path.same_iff, ← Path.order_eq_iff] at different
        rw [Path.atMost] at least
        cases compared : first.order second with
        | lt => rfl
        | eq => exact absurd compared different
        | gt => simp [compared] at least
      rcases List.mem_cons.mp (mem_of_mem_distinct member) with rfl | among
      · exact next
      · exact Std.TransCmp.lt_of_lt_of_isLE next ((List.pairwise_cons.mp later).1 p among)
  | case3 paths short =>
      rcases paths with _ | ⟨p, _ | ⟨q, rest⟩⟩
      · exact .nil
      · exact List.pairwise_singleton _ p
      · exact absurd rfl (short p q rest)

/-- The compiled paths of a source are in order, each once. -/
theorem compiledPaths_increasing (index : SourceIndex) (source : Path)
    : (index.compiledPaths source).Pairwise fun p q => p.order q = .lt := by
  have trans : ∀ p q r : Path, p.atMost q = true → q.atMost r = true → p.atMost r = true :=
    fun _ _ _ => Path.atMost_trans
  exact distinct_increasing (List.pairwise_mergeSort trans Path.atMost_total _)

/-- A source has the compiled files of its discoveries. -/
theorem mem_compiledPaths {components : List Path.Component}
    : components ∈ (index.compiledPaths source).map Path.components
      ↔ ∃ discovery ∈ index.get source, discovery.file.path.components = components := by
  rw [compiledPaths, mem_components_distinct, ((List.mergeSort_perm _ _).map _).mem_iff,
    List.map_map, List.mem_map]
  rfl

/-- Lists of paths that increase strictly and have the same components among their paths are the
same, path by path.
-/
theorem components_eq_of_increasing {others : List Path}
    (increasing : paths.Pairwise fun p q => p.order q = .lt)
    (also : others.Pairwise fun p q => p.order q = .lt)
    (same
      : ∀ components,
          components ∈ paths.map Path.components ↔ components ∈ others.map Path.components)
    : paths.map Path.components = others.map Path.components := by
  have strictly {paths : List Path} (increasing : paths.Pairwise fun p q => p.order q = .lt)
      : (paths.map Path.components).Pairwise fun a b => Path.orderComponents a b = .lt :=
    List.pairwise_map.mpr increasing
  have nodup {paths : List Path} (increasing : paths.Pairwise fun p q => p.order q = .lt)
      : (paths.map Path.components).Nodup := by
    refine (strictly increasing).imp fun {a b} less equal => ?_
    have self : Path.orderComponents b b = .eq := Std.ReflCmp.compare_self
    rw [equal, self] at less
    cases less
  refine List.Perm.eq_of_pairwise ?_ (strictly increasing) (strictly also)
    ((List.perm_ext_iff_of_nodup (nodup increasing) (nodup also)).mpr same)
  intro a b _ _ less more
  rw [Std.OrientedCmp.gt_of_lt less] at more
  cases more

/-- An index has each of some discoveries once under its key and nothing else, and for each source
their compiled files in strictly increasing order, all up to the spelling of paths.
-/
structure Catalogues (index : SourceIndex) (found : List Discovery) : Prop where
  discovered : ∀ source, ∀ discovery ∈ index.get source, discovery ∈ found
  once : ∀ source, ((index.get source).map Discovery.content).Nodup
  listed
    : ∀ source content,
        content ∈ (index.get source).map Discovery.content
        ↔ ∃ discovery ∈ found,
            ScriptUrl.sourceKey discovery.path = ScriptUrl.sourceKey source
            ∧ discovery.content = content
  size
    : index.size = (found.map fun discovery => ScriptUrl.sourceKey discovery.path).dedup.length
  increasing : ∀ source, (index.compiledPaths source).Pairwise fun p q => p.order q = .lt
  compiled
    : ∀ source components,
        components ∈ (index.compiledPaths source).map Path.components
        ↔ ∃ discovery ∈ found,
            ScriptUrl.sourceKey discovery.path = ScriptUrl.sourceKey source
            ∧ discovery.file.path.components = components

/-- The index of some discoveries catalogues them, by induction on their arrival. -/
theorem catalogues_ofDiscoveries (found : List Discovery)
    : (ofDiscoveries found).Catalogues found := by
  have covers := covers_ofDiscoveries found
  refine ⟨?_, nodup_ofDiscoveries found, ?_, covers.size_eq, compiledPaths_increasing _, ?_⟩
  · exact fun source discovery member => (covers.sound member).1
  · exact fun source content => covers.mem_content_iff
  · intro source components
    rw [mem_compiledPaths]
    constructor
    · rintro ⟨discovery, listed, same⟩
      obtain ⟨there, key⟩ := covers.sound listed
      exact ⟨discovery, there, key, same⟩
    · rintro ⟨discovery, there, key, same⟩
      obtain ⟨kept, listed, twin⟩ := covers.complete there key
      have files : discovery.file.path.components = kept.file.path.components :=
        congrArg (·.2.2.1) (Discovery.same_iff.mp twin)
      exact ⟨kept, listed, files.symm.trans same⟩

/-- In whichever order discoveries arrive, the same ones are listed for a source. -/
theorem perm_get (same : found.Perm others) (source : Path)
    : (((ofDiscoveries found).get source).map Discovery.content).Perm
        (((ofDiscoveries others).get source).map Discovery.content) := by
  have first := catalogues_ofDiscoveries found
  have second := catalogues_ofDiscoveries others
  refine (List.perm_ext_iff_of_nodup (first.once source) (second.once source)).mpr ?_
  intro content
  simp only [first.listed, second.listed, same.mem_iff]

/-- And so are the compiled files, in the same order. -/
theorem compiledPaths_of_perm (same : found.Perm others) (source : Path)
    : ((ofDiscoveries found).compiledPaths source).map Path.components
      = ((ofDiscoveries others).compiledPaths source).map Path.components := by
  have first := catalogues_ofDiscoveries found
  have second := catalogues_ofDiscoveries others
  refine components_eq_of_increasing (first.increasing source) (second.increasing source) ?_
  intro components
  simp only [first.compiled, second.compiled, same.mem_iff]

end SourceIndex

end EarlyBreak
