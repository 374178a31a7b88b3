import EarlyBreak.Proofs.SourceMap.Search

/-! Which mappings a lookup at their own place finds.  The search knows one index for each URL, so
that the mappings of a later source with the same URL stand behind those of the first one.
-/

namespace EarlyBreak.SourceMap

open Lexicographic (atMost eq_of_atMost)

/-- Some mapping of a source is at a place in it. -/
def MappedAt (mappings : List Mapping) (index : Nat) (place : List Nat) : Prop :=
  ∃ twin ∈ mappings, twin.source = index ∧ twin.inSource = place

/-- The lookup at the place of a mapping answers with a mapping of the same URL at that place. -/
def Reached (map : SourceMap) (mappings : List Mapping) (source : String) (m : Mapping) : Prop :=
  ∃ twin ∈ mappings,
    map.sources[twin.source]? = some source
    ∧ twin.inSource = m.inSource
    ∧ map.generatedPosition? source (m.sourceLine + 1) m.sourceColumn .after
      = some twin.generatedPosition

section Reach

variable {sources : List String} {mappings : List Mapping} {source : String} {m : Mapping}

theorem exists_firstIndex {index : Nat} (holds : sources[index]? = some source)
    : ∃ first ≤ index, FirstIndex sources source first := by
  cases known : sources.findIdx? (· == source) with
  | none =>
      have member := List.mem_of_getElem? holds
      have absent := List.findIdx?_eq_none_iff.mp known source member
      simp at absent
  | some first =>
      have known := findIdx?_eq_some_iff.mp known
      refine ⟨first, ?_, known⟩
      by_contra beyond
      exact known.first index (Nat.lt_of_not_le beyond) holds

/-- The nearest mapping after a place is at that place if any is. -/
theorem Nearest.inSource_eq {index : Nat} {place : List Nat} {found : Mapping}
    (nearest : Nearest mappings index .after place found) (mapped : MappedAt mappings index place)
    : found.inSource = place := by
  obtain ⟨twin, member, ofIndex, rfl⟩ := mapped
  have order : atMost found.rank twin.rank = true :=
    nearest.closest twin member ofIndex (Bias.reaches_refl _)
  have order : atMost found.inSource twin.inSource = true :=
    Lexicographic.atMost_of_append rfl order
  exact eq_of_atMost order nearest.reached

/-- A place that is mapped for the first index is reached. -/
theorem reached_of_mappedAt {first : Nat} (known : FirstIndex sources source first)
    (mapped : MappedAt mappings first m.inSource)
    : Reached (ofMappings sources mappings) mappings source m := by
  -- The twin need not be what is found: another mapping at its place may be generated before it.
  have ⟨twin, member, ofFirst, place⟩ := mapped
  have reached : Bias.after.reaches m.inSource twin.inSource = true :=
    place ▸ Bias.reaches_refl _
  obtain ⟨found, nearest⟩ := exists_nearest member (ofFirst ▸ known.lt) reached
  rw [ofFirst] at nearest
  refine ⟨found, nearest.member, ?_, nearest.inSource_eq mapped, ?_⟩
  · rw [nearest.source]
    exact known.holds
  · exact generatedPosition?_eq_some_iff.mpr
      ⟨first, found, known, Nat.succ_pos _, nearest, rfl⟩

/-- Where a place is not mapped for the first index, an answer is a later place of that index. -/
theorem slides_of_not_mappedAt {first : Nat} {position : GeneratedPosition}
    (known : FirstIndex sources source first) (unmapped : ¬ MappedAt mappings first m.inSource)
    (answer : (ofMappings sources mappings).generatedPosition? source (m.sourceLine + 1)
      m.sourceColumn .after = some position)
    : ∃ later ∈ mappings,
        later.source = first
        ∧ Lexicographic.before m.inSource later.inSource = true
        ∧ position = later.generatedPosition := by
  obtain ⟨index, later, firstIndex, _, nearest, same⟩ := generatedPosition?_eq_some_iff.mp answer
  obtain rfl := firstIndex.unique known
  refine ⟨later, nearest.member, nearest.source, ?_, same⟩
  have elsewhere : later.inSource ≠ m.inSource := by
    intro place
    exact unmapped ⟨later, nearest.member, nearest.source, place⟩
  cases back : atMost later.inSource m.inSource with
  | true => exact absurd (eq_of_atMost back nearest.reached) elsewhere
  | false => simp [Lexicographic.before, back]

end Reach

/-- A mapping is reached at its own place if the first source of its URL maps that place.
Otherwise the lookup finds nothing or a later place of that first source.
-/
theorem reached_or_slides {json : String} {base : Option Url} {map : SourceMap}
    (parsed : parse json base = .ok map)
    : ∃ document mappings,
        Describes json document mappings
        ∧ map.sources = document.sourceUrls base
        ∧ ∀ m ∈ mappings, ∀ source, map.sources[m.source]? = some source →
            ∃ first ≤ m.source,
              FirstIndex map.sources source first
              ∧ (MappedAt mappings first m.inSource → Reached map mappings source m)
              ∧ (¬ MappedAt mappings first m.inSource →
                  ∀ position,
                    map.generatedPosition? source (m.sourceLine + 1) m.sourceColumn .after
                      = some position →
                    ∃ later ∈ mappings,
                      later.source = first
                      ∧ Lexicographic.before m.inSource later.inSource = true
                      ∧ position = later.generatedPosition) := by
  obtain ⟨document, mappings, describes, rfl⟩ := parse_eq_ok_iff.mp parsed
  refine ⟨document, mappings, describes, rfl, ?_⟩
  intro m _ source holds
  obtain ⟨first, order, known⟩ := exists_firstIndex holds
  refine ⟨first, order, known, reached_of_mappedAt known, ?_⟩
  intro unmapped position answer
  exact slides_of_not_mappedAt known unmapped answer

/-- A map that spells one source in two ways. -/
def repeatedText : String :=
  "\x7b\"version\":3,\"sources\":[\"a.ts\",\"./a.ts\"],\"mappings\":\"AAAA;ACCA\"\x7d"

def repeatedMappings : List Mapping := [⟨0, 0, 0, 0, 0⟩, ⟨1, 0, 1, 1, 0⟩]

/-- Both spellings behind the URL of the map. -/
def repeatedUrls : List String := ["file:///work/out/a.ts", "file:///work/out/a.ts"]

theorem describes_repeated
    : Describes repeatedText ⟨3, none, [some "a.ts", some "./a.ts"], "AAAA;ACCA", false⟩
        repeatedMappings :=
  ⟨by decide +kernel, rfl, rfl, by decide +kernel⟩

theorem parse_repeated
    : parse repeatedText (Url.parse? "file:///work/out/index.js.map")
      = .ok (ofMappings repeatedUrls repeatedMappings) := by
  have urls : Document.sourceUrls
      ⟨3, none, [some "a.ts", some "./a.ts"], "AAAA;ACCA", false⟩
      (Url.parse? "file:///work/out/index.js.map") = repeatedUrls := by decide +kernel
  exact parse_eq_ok_iff.mpr ⟨_, _, describes_repeated, by rw [urls]⟩

theorem firstIndex_repeated : FirstIndex repeatedUrls "file:///work/out/a.ts" 0 :=
  ⟨rfl, by omega⟩

theorem reached_or_slides_repeated
    : parse repeatedText (Url.parse? "file:///work/out/index.js.map")
        = .ok (ofMappings repeatedUrls repeatedMappings)
      ∧ Reached (ofMappings repeatedUrls repeatedMappings) repeatedMappings
          "file:///work/out/a.ts" ⟨0, 0, 0, 0, 0⟩ := by
  obtain ⟨document, mappings, describes, _, answers⟩ := reached_or_slides parse_repeated
  obtain ⟨-, rfl⟩ := describes.unique describes_repeated
  obtain ⟨first, _, known, reached, _⟩ := answers ⟨0, 0, 0, 0, 0⟩ (by decide)
    "file:///work/out/a.ts" rfl
  obtain rfl := known.unique firstIndex_repeated
  exact ⟨parse_repeated, reached ⟨⟨0, 0, 0, 0, 0⟩, by decide, rfl, rfl⟩⟩

/-- The mapping of the second spelling is lost: the lookup at its place finds nothing. -/
theorem not_reached_repeated
    : Describes repeatedText ⟨3, none, [some "a.ts", some "./a.ts"], "AAAA;ACCA", false⟩
        repeatedMappings
      ∧ parse repeatedText (Url.parse? "file:///work/out/index.js.map")
        = .ok (ofMappings repeatedUrls repeatedMappings)
      ∧ ⟨1, 0, 1, 1, 0⟩ ∈ repeatedMappings
      ∧ (ofMappings repeatedUrls repeatedMappings).sources[1]? = some "file:///work/out/a.ts"
      ∧ ¬ Reached (ofMappings repeatedUrls repeatedMappings) repeatedMappings
          "file:///work/out/a.ts" ⟨1, 0, 1, 1, 0⟩ := by
  refine ⟨describes_repeated, parse_repeated, by decide, rfl, ?_⟩
  rintro ⟨twin, _, _, _, answer⟩
  have missing : (ofMappings repeatedUrls repeatedMappings).generatedPosition?
      "file:///work/out/a.ts" 2 0 .after = none :=
    generatedPosition?_eq_none_iff.mpr (Or.inr (Or.inr ⟨0, firstIndex_repeated, by decide⟩))
  rw [missing] at answer
  cases answer

end EarlyBreak.SourceMap
