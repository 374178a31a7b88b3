import EarlyBreak.SourceMap.Lookup
import Mathlib.Data.List.TakeWhile

/-! What a lookup by source position finds.  The mappings of all sources stand in one sorted list:
the search picks the nearest mapping of any source, and no mapping of another source lies between
two mappings of one source.
-/

namespace EarlyBreak

/-- On a sorted list a test that passes on to what comes before keeps a beginning. -/
theorem takeWhile_eq_filter {α : Type} {le : α → α → Bool} {p : α → Bool} {xs : List α}
    (sorted : xs.Pairwise (fun a b => le a b = true))
    (closed : ∀ a b, le a b = true → p b = true → p a = true)
    : xs.takeWhile p = xs.filter p := by
  induction xs with
  | nil => rfl
  | cons x xs ih =>
      obtain ⟨below, rest⟩ := List.pairwise_cons.mp sorted
      cases kept : p x with
      | true => simp only [List.takeWhile_cons, List.filter_cons, kept, if_true, ih rest]
      | false =>
          have dropped : ∀ y ∈ xs, ¬ p y = true := by
            intro y member passes
            have passes := closed x y (below y member) passes
            simp [kept] at passes
          simp [kept, List.filter_eq_nil_iff.mpr dropped]

namespace SourceMap

open Lexicographic (atMost atMost_total atMost_trans eq_of_atMost)

/-- The place of a mapping within its source. -/
def Mapping.inSource (m : Mapping) : List Nat := [m.sourceLine, m.sourceColumn]

/-- The coordinates that the mappings of one source are told apart by. -/
def Mapping.rank (m : Mapping) : List Nat := m.inSource ++ m.generatedPlace

theorem Mapping.sourcePlace_eq (m : Mapping) : m.sourcePlace = m.source :: m.inSource := rfl

theorem Mapping.places_eq (m : Mapping) : m.places = m.source :: m.rank := rfl

theorem Mapping.eq_of_places {a b : Mapping} (same : a.places = b.places) : a = b := by
  cases a
  cases b
  simp_all [places, sourcePlace, generatedPlace]

namespace Bias

/-- Whether a place lies on the side of the bias of another, or is that one. -/
def reaches : Bias → List Nat → List Nat → Bool
  | .after, wanted, place => atMost wanted place
  | .before, wanted, place => atMost place wanted

/-- The end of a sorted list that is nearest for the bias. -/
def pick : Bias → List Mapping → Option Mapping
  | .after, mappings => mappings.head?
  | .before, mappings => mappings.getLast?

variable {bias : Bias}

theorem reaches_refl (place : List Nat) : bias.reaches place place = true := by
  have same : atMost place place = true := by simpa using atMost_total place place
  cases bias <;> exact same

theorem eq_of_reaches {a b : List Nat}
    (first : bias.reaches a b = true) (second : bias.reaches b a = true)
    : a = b := by
  cases bias with
  | after => exact eq_of_atMost first second
  | before => exact eq_of_atMost second first

theorem reaches_cons_self (a : Nat) (as bs : List Nat)
    : bias.reaches (a :: as) (a :: bs) = bias.reaches as bs := by
  cases bias <;> simp [reaches, atMost]

/-- Between two places that begin alike there is none that begins otherwise. -/
theorem head_eq_of_between {a b : Nat} {as bs bs' as' : List Nat}
    (first : bias.reaches (a :: as) (b :: bs) = true)
    (second : bias.reaches (b :: bs') (a :: as') = true)
    : b = a := by
  cases bias <;> simp only [reaches, atMost, Bool.or_eq_true, Bool.and_eq_true, decide_eq_true_eq,
    beq_iff_eq] at first second <;> omega

theorem mem_of_pick {mappings : List Mapping} {m : Mapping} (picked : bias.pick mappings = some m)
    : m ∈ mappings := by
  cases bias with
  | after => exact List.mem_of_mem_head? picked
  | before => exact List.mem_of_getLast? picked

theorem eq_nil_of_pick {mappings : List Mapping} (picked : bias.pick mappings = none)
    : mappings = [] := by
  cases bias with
  | after => exact List.head?_eq_none_iff.mp picked
  | before => exact List.getLast?_eq_none_iff.mp picked

/-- What is picked from sorted mappings reaches them all. -/
theorem reaches_of_pick {mappings : List Mapping} {m other : Mapping}
    (sorted : mappings.Pairwise (fun a b => atMost a.places b.places = true))
    (picked : bias.pick mappings = some m) (member : other ∈ mappings)
    : bias.reaches m.places other.places = true := by
  cases bias with
  | after =>
      obtain ⟨rest, rfl⟩ := List.head?_eq_some_iff.mp picked
      rcases List.mem_cons.mp member with rfl | later
      · exact reaches_refl _
      · exact List.rel_of_pairwise_cons sorted later
  | before =>
      obtain ⟨rest, rfl⟩ := List.getLast?_eq_some_iff.mp picked
      rcases List.mem_append.mp member with earlier | last
      · exact (List.pairwise_append.mp sorted).2.2 other earlier m (List.mem_singleton_self m)
      · rw [List.mem_singleton.mp last]
        exact reaches_refl _

end Bias

/-- The mapping of a source that is nearest to a place in it, among those on the side of the bias:
the least after the place or the greatest before it, by source and then generated coordinates.
-/
structure Nearest (mappings : List Mapping) (index : Nat) (bias : Bias) (wanted : List Nat)
    (m : Mapping) : Prop where
  member : m ∈ mappings
  source : m.source = index
  reached : bias.reaches wanted m.inSource = true
  closest : ∀ other ∈ mappings, other.source = index
    → bias.reaches wanted other.inSource = true → bias.reaches m.rank other.rank = true

/-- An index is that of the first source with a certain URL. -/
structure FirstIndex (sources : List String) (source : String) (index : Nat) : Prop where
  holds : sources[index]? = some source
  first : ∀ earlier < index, sources[earlier]? ≠ some source

theorem findIdx?_eq_some_iff {sources : List String} {source : String} {index : Nat}
    : sources.findIdx? (· == source) = some index ↔ FirstIndex sources source index := by
  rw [List.findIdx?_eq_some_iff_getElem]
  constructor
  · rintro ⟨inRange, holds, first⟩
    refine ⟨by simpa [List.getElem?_eq_getElem inRange] using holds, ?_⟩
    intro earlier before
    have other := first earlier before
    simpa [List.getElem?_eq_getElem (Nat.lt_trans before inRange)] using other
  · rintro ⟨holds, first⟩
    obtain ⟨inRange, holds⟩ := List.getElem?_eq_some_iff.mp holds
    refine ⟨inRange, by simpa using holds, ?_⟩
    intro earlier before
    have other := first earlier before
    simpa [List.getElem?_eq_getElem (Nat.lt_trans before inRange)] using other

theorem FirstIndex.lt {sources : List String} {source : String} {index : Nat}
    (firstIndex : FirstIndex sources source index) : index < sources.length :=
  (List.getElem?_eq_some_iff.mp firstIndex.holds).1

theorem FirstIndex.unique {sources : List String} {source : String} {index other : Nat}
    (firstIndex : FirstIndex sources source index) (otherFirst : FirstIndex sources source other)
    : index = other := by
  rcases Nat.lt_trichotomy index other with less | same | more
  · exact absurd firstIndex.holds (otherFirst.first index less)
  · exact same
  · exact absurd otherFirst.holds (firstIndex.first other more)

section Search

variable {sources : List String} {mappings : List Mapping} {bias : Bias} {m : Mapping}

theorem mem_bySource
    : m ∈ (ofMappings sources mappings).bySource ↔ m ∈ mappings ∧ m.source < sources.length := by
  simp [ofMappings, List.mem_mergeSort]

theorem bySource_sorted (sources : List String) (mappings : List Mapping)
    : (ofMappings sources mappings).bySource.Pairwise
        (fun a b => atMost a.places b.places = true) := by
  apply List.pairwise_mergeSort
  · intro a b c
    exact atMost_trans
  · intro a b
    exact atMost_total a.places b.places

/-- The search picks from the mappings that the bias reaches, as they are sorted. -/
theorem neighbour?_eq (wanted : List Nat)
    : (ofMappings sources mappings).neighbour? wanted bias
      = bias.pick ((ofMappings sources mappings).bySource.filter
          fun m => bias.reaches wanted m.sourcePlace) := by
  cases bias with
  | after =>
      -- The first mapping that is kept is the first one that passes, sorted or not.
      simp only [neighbour?, Lexicographic.before, Bias.pick, Bias.reaches, List.head?_filter]
      exact (List.find?_eq_head?_dropWhile_not _ _).symm
  | before =>
      have closed : ∀ a b : Mapping, atMost a.places b.places = true
          → atMost b.sourcePlace wanted = true → atMost a.sourcePlace wanted = true := by
        intro a b order reached
        have order : atMost a.sourcePlace b.sourcePlace = true :=
          Lexicographic.atMost_of_append rfl order
        exact atMost_trans order reached
      simp only [neighbour?, Bias.pick, Bias.reaches]
      rw [takeWhile_eq_filter (bySource_sorted sources mappings) closed]

/-- What the search picks is reached, and nearest among what is reached in any source. -/
theorem neighbour?_some {wanted : List Nat}
    (found : (ofMappings sources mappings).neighbour? wanted bias = some m)
    : m ∈ (ofMappings sources mappings).bySource
      ∧ bias.reaches wanted m.sourcePlace = true
      ∧ ∀ other ∈ (ofMappings sources mappings).bySource,
          bias.reaches wanted other.sourcePlace = true
          → bias.reaches m.places other.places = true := by
  rw [neighbour?_eq] at found
  obtain ⟨member, reached⟩ := List.mem_filter.mp (Bias.mem_of_pick found)
  refine ⟨member, reached, ?_⟩
  intro other member reached
  exact Bias.reaches_of_pick ((bySource_sorted sources mappings).filter _) found
    (List.mem_filter.mpr ⟨member, reached⟩)

/-- A reached mapping of a source keeps the search in that source. -/
theorem neighbour?_of_reached {line column : Nat} (member : m ∈ mappings)
    (inRange : m.source < sources.length)
    (reached : bias.reaches [line, column] m.inSource = true)
    : ∃ found,
        (ofMappings sources mappings).neighbour? [m.source, line, column] bias = some found
        ∧ found.source = m.source
        ∧ bias.reaches found.rank m.rank = true := by
  have reached : bias.reaches [m.source, line, column] m.sourcePlace = true := by
    rw [m.sourcePlace_eq, Bias.reaches_cons_self]
    exact reached
  have member := mem_bySource.mpr ⟨member, inRange⟩
  cases found : (ofMappings sources mappings).neighbour? [m.source, line, column] bias with
  | none =>
      rw [neighbour?_eq] at found
      have empty := List.filter_eq_nil_iff.mp (Bias.eq_nil_of_pick found)
      exact absurd reached (empty m member)
  | some found' =>
      -- What was found lies between the place and the mapping, so it cannot be of another source.
      obtain ⟨_, beyond, nearest⟩ := neighbour?_some found
      have nearest := nearest m member reached
      rw [found'.sourcePlace_eq] at beyond
      rw [m.places_eq, found'.places_eq] at nearest
      have source := Bias.head_eq_of_between beyond nearest
      rw [source, Bias.reaches_cons_self] at nearest
      exact ⟨found', rfl, source, nearest⟩

/-- The search picks a mapping of the wanted source exactly if that one is nearest in it. -/
theorem neighbour?_iff_nearest {index line column : Nat} (inRange : index < sources.length)
    : (ofMappings sources mappings).neighbour? [index, line, column] bias = some m
        ∧ m.source = index
      ↔ Nearest mappings index bias [line, column] m := by
  constructor
  · rintro ⟨found, rfl⟩
    obtain ⟨member, reached, nearest⟩ := neighbour?_some found
    rw [m.sourcePlace_eq, Bias.reaches_cons_self] at reached
    refine ⟨(mem_bySource.mp member).1, rfl, reached, ?_⟩
    intro other member source reached
    have retained := mem_bySource.mpr ⟨member, source ▸ inRange⟩
    have order := nearest other retained (by
      rw [other.sourcePlace_eq, source, Bias.reaches_cons_self]
      exact reached)
    rw [m.places_eq, other.places_eq, source, Bias.reaches_cons_self] at order
    exact order
  · rintro ⟨member, rfl, reached, closest⟩
    obtain ⟨found, search, source, order⟩ := neighbour?_of_reached member inRange reached
    obtain ⟨retained, reachedFound, _⟩ := neighbour?_some search
    rw [found.sourcePlace_eq, source, Bias.reaches_cons_self] at reachedFound
    -- Each is at least as near as the other, and all coordinates count.
    have back := closest found (mem_bySource.mp retained).1 source reachedFound
    have same : found.places = m.places := by
      rw [found.places_eq, m.places_eq, source, Bias.eq_of_reaches order back]
    rw [search, Mapping.eq_of_places same]
    exact ⟨rfl, rfl⟩

/-- A source with a reached mapping has a nearest one. -/
theorem exists_nearest {line column : Nat} (member : m ∈ mappings)
    (inRange : m.source < sources.length)
    (reached : bias.reaches [line, column] m.inSource = true)
    : ∃ found, Nearest mappings m.source bias [line, column] found := by
  obtain ⟨found, search, source, _⟩ := neighbour?_of_reached member inRange reached
  exact ⟨found, (neighbour?_iff_nearest inRange).mp ⟨search, source⟩⟩

/-- A place is answered by the nearest mapping of its source. -/
theorem generatedPosition?_eq_some_iff {source : String} {line column : Nat}
    {position : GeneratedPosition}
    : (ofMappings sources mappings).generatedPosition? source line column bias = some position
      ↔ ∃ index m,
          FirstIndex sources source index
          ∧ 0 < line
          ∧ Nearest mappings index bias [line - 1, column] m
          ∧ position = m.generatedPosition := by
  have sourcesEq : (ofMappings sources mappings).sources = sources := rfl
  cases line with
  | zero => simp [generatedPosition?]
  | succ line =>
      simp only [generatedPosition?, sourcesEq, Option.bind_eq_bind, Option.bind_eq_some_iff]
      constructor
      · rintro ⟨index, known, m, search, answer⟩
        have known := findIdx?_eq_some_iff.mp known
        split at answer
        · have nearest := (neighbour?_iff_nearest known.lt).mp ⟨search, ‹_›⟩
          exact ⟨index, m, known, Nat.succ_pos line, nearest, (Option.some.inj answer).symm⟩
        · cases answer
      · rintro ⟨index, m, known, _, nearest, rfl⟩
        obtain ⟨search, source⟩ := (neighbour?_iff_nearest known.lt).mpr nearest
        exact ⟨index, findIdx?_eq_some_iff.mpr known, m, search, by simp [source]⟩

/-- Nothing is answered exactly if the source has no mapping on that side. -/
theorem generatedPosition?_eq_none_iff {source : String} {line column : Nat}
    : (ofMappings sources mappings).generatedPosition? source line column bias = none
      ↔ source ∉ sources
        ∨ line = 0
        ∨ ∃ index,
            FirstIndex sources source index
            ∧ ∀ m ∈ mappings, m.source = index
                → ¬ bias.reaches [line - 1, column] m.inSource = true := by
  constructor
  · intro missing
    rcases Nat.eq_zero_or_pos line with zero | positive
    · exact Or.inr (Or.inl zero)
    cases known : sources.findIdx? (· == source) with
    | none =>
        left
        intro member
        simpa using List.findIdx?_eq_none_iff.mp known source member
    | some index =>
        have known := findIdx?_eq_some_iff.mp known
        refine Or.inr (Or.inr ⟨index, known, ?_⟩)
        rintro m member rfl reached
        obtain ⟨found, nearest⟩ := exists_nearest member known.lt reached
        have answer := generatedPosition?_eq_some_iff.mpr
          ⟨m.source, found, known, positive, nearest, rfl⟩
        rw [missing] at answer
        cases answer
  · intro without
    cases answer : (ofMappings sources mappings).generatedPosition? source line column bias with
    | none => rfl
    | some position =>
        obtain ⟨index, m, known, positive, nearest, _⟩ := generatedPosition?_eq_some_iff.mp answer
        rcases without with unknown | zero | ⟨first, firstIndex, unreached⟩
        · exact absurd (List.mem_of_getElem? known.holds) unknown
        · omega
        · have source : m.source = first := nearest.source.trans (known.unique firstIndex)
          exact absurd nearest.reached (unreached m nearest.member source)

end Search

/-- The URLs of the sources of a document. -/
def Document.sourceUrls (document : Document) (base : Option Url) : List String :=
  document.sources.map fun source =>
    resolveSource base document.sourceRoot (source.getD "")

/-- A text is that of a document which makes a map, with these mappings. -/
structure Describes (json : String) (document : Document) (mappings : List Mapping) : Prop where
  text : (Json.parse? json).bind Document.ofJson? = some document
  plain : document.isIndexed = false
  version : document.version = 3
  decoded : decodeMappings document.mappings.toList = .ok mappings

theorem Describes.unique {json : String} {document other : Document}
    {mappings others : List Mapping} (describes : Describes json document mappings)
    (alike : Describes json other others)
    : document = other ∧ mappings = others := by
  have same : document = other := Option.some.inj (describes.text.symm.trans alike.text)
  subst other
  exact ⟨rfl, Except.ok.inj (describes.decoded.symm.trans alike.decoded)⟩

theorem ofDocument_eq_ok_iff {document : Document} {base : Option Url} {map : SourceMap}
    : ofDocument document base = .ok map
      ↔ document.isIndexed = false
        ∧ document.version = 3
        ∧ ∃ mappings,
            decodeMappings document.mappings.toList = .ok mappings
            ∧ map = ofMappings (document.sourceUrls base) mappings := by
  cases plain : document.isIndexed with
  | true => simp [ofDocument, plain, throw, throwThe, MonadExceptOf.throw, bind, Except.bind]
  | false =>
      by_cases version : document.version = 3
      · cases decoded : decodeMappings document.mappings.toList with
        | error fault =>
            simp [ofDocument, plain, version, decoded, throw, throwThe, MonadExceptOf.throw]
        | ok mappings =>
            simp [ofDocument, plain, version, decoded, pure, Except.pure, Document.sourceUrls,
              eq_comm]
      · simp [ofDocument, plain, version, throw, throwThe, MonadExceptOf.throw, bind, Except.bind]

/-- A text is accepted exactly if it describes a document and its mappings. -/
theorem parse_eq_ok_iff {json : String} {base : Option Url} {map : SourceMap}
    : parse json base = .ok map
      ↔ ∃ document mappings,
          Describes json document mappings
          ∧ map = ofMappings (document.sourceUrls base) mappings := by
  unfold parse
  constructor
  · intro parsed
    cases text : (Json.parse? json).bind Document.ofJson? with
    | none => simp [text] at parsed
    | some document =>
        rw [text] at parsed
        obtain ⟨plain, version, mappings, decoded, same⟩ := ofDocument_eq_ok_iff.mp parsed
        exact ⟨document, mappings, ⟨text, plain, version, decoded⟩, same⟩
  · rintro ⟨document, mappings, ⟨text, plain, version, decoded⟩, same⟩
    rw [text]
    exact ofDocument_eq_ok_iff.mpr ⟨plain, version, mappings, decoded, same⟩

/-- A lookup by source position gives the generated position of the nearest mapping of the first
source with the wanted URL, and nothing exactly if there is no such source or mapping or the line
is none.
-/
theorem nearest_of_parse {json : String} {base : Option Url} {map : SourceMap}
    (parsed : parse json base = .ok map)
    : ∃ document mappings,
        Describes json document mappings
        ∧ map.sources = document.sourceUrls base
        ∧ ∀ (source : String) (line column : Nat) (bias : Bias),
            (∀ position,
              map.generatedPosition? source line column bias = some position
                ↔ ∃ index m,
                    FirstIndex map.sources source index
                    ∧ 0 < line
                    ∧ Nearest mappings index bias [line - 1, column] m
                    ∧ position = m.generatedPosition)
            ∧ (map.generatedPosition? source line column bias = none
                ↔ source ∉ map.sources
                  ∨ line = 0
                  ∨ ∃ index,
                      FirstIndex map.sources source index
                      ∧ ∀ m ∈ mappings, m.source = index
                          → ¬ bias.reaches [line - 1, column] m.inSource = true) := by
  obtain ⟨document, mappings, describes, rfl⟩ := parse_eq_ok_iff.mp parsed
  refine ⟨document, mappings, describes, rfl, ?_⟩
  intro source line column bias
  refine ⟨?_, generatedPosition?_eq_none_iff⟩
  intro position
  exact generatedPosition?_eq_some_iff

/-- A map whose first source has mappings for its first and third line. -/
def sampleText : String :=
  "\x7b\"version\":3,\"sources\":[\"a.ts\",\"b.ts\"],\"mappings\":\";AAAA,IAAM;EAEJ;ACFF\"\x7d"

def sampleMappings : List Mapping :=
  [⟨1, 0, 0, 0, 0⟩, ⟨1, 4, 0, 0, 6⟩, ⟨2, 2, 0, 2, 2⟩, ⟨3, 0, 1, 0, 0⟩]

deriving instance DecidableEq for Document

theorem describes_sample
    : Describes sampleText
        ⟨3, none, [some "a.ts", some "b.ts"], ";AAAA,IAAM;EAEJ;ACFF", false⟩ sampleMappings :=
  ⟨by decide +kernel, rfl, rfl, by decide +kernel⟩

/-- From the unmapped second line the search goes on to the third one, and from below all lines to
no other source.
-/
theorem nearest_of_parse_sample
    : parse sampleText none = .ok (ofMappings ["a.ts", "b.ts"] sampleMappings)
      ∧ (ofMappings ["a.ts", "b.ts"] sampleMappings).generatedPosition? "a.ts" 2 0 .after
        = some ⟨3, 2⟩
      ∧ (ofMappings ["a.ts", "b.ts"] sampleMappings).generatedPosition? "a.ts" 9 0 .after
        = none := by
  have parsed : parse sampleText none = .ok (ofMappings ["a.ts", "b.ts"] sampleMappings) :=
    parse_eq_ok_iff.mpr ⟨_, _, describes_sample, by congr 1⟩
  obtain ⟨document, mappings, describes, _, answers⟩ := nearest_of_parse parsed
  obtain ⟨-, rfl⟩ := describes.unique describes_sample
  have firstIndex : FirstIndex ["a.ts", "b.ts"] "a.ts" 0 := ⟨rfl, by omega⟩
  refine ⟨parsed, ?_, ?_⟩
  · apply ((answers "a.ts" 2 0 .after).1 ⟨3, 2⟩).mpr
    exact ⟨0, ⟨2, 2, 0, 2, 2⟩, firstIndex, by decide, ⟨by decide, rfl, by decide, by decide⟩, rfl⟩
  · apply (answers "a.ts" 9 0 .after).2.mpr
    exact Or.inr (Or.inr ⟨0, firstIndex, by decide⟩)

end SourceMap

end EarlyBreak
