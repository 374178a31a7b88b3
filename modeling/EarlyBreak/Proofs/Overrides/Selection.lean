import EarlyBreak.Proofs.Overrides.Matching
import Mathlib.Data.List.Nodup

/-! The rule that is applied to a URL: of those whose keys match, the one with the most in front of
its `*`.  Rules with different keys are never tied, so their order in the list makes no difference.
-/

namespace EarlyBreak

open Lexicographic (atMost atMost_total atMost_trans eq_of_atMost)

namespace Lexicographic

theorem atMost_append_cons (a : List Nat) (n : Nat) (rest : List Nat)
    : atMost (a ++ n :: rest) a = false := by
  induction a with
  | nil => rfl
  | cons first a ih => simp [atMost, ih]

end Lexicographic

namespace PathOverride

variable {a b c rule : PathOverride} {rules others : List PathOverride} {root : Path} {url : String}

-----------------------------------------------------------------------------------------
-- The order in which rules are tried
-----------------------------------------------------------------------------------------

/-- One rule precedes another if it reaches further, or as far with a key that is at most the other
one.
-/
theorem precedes_iff
    : a.precedes b = true
      ↔ b.reach < a.reach ∨ a.reach = b.reach ∧ atMost a.keyBytes b.keyBytes = true := by
  unfold precedes
  split
  case isTrue same => simp [same]
  case isFalse other => simp [other]

theorem precedes_total (a b : PathOverride) : (a.precedes b || b.precedes a) = true := by
  rw [Bool.or_eq_true, precedes_iff, precedes_iff]
  have bytes := Bool.or_eq_true_iff.mp (atMost_total a.keyBytes b.keyBytes)
  rcases Nat.lt_trichotomy a.reach b.reach with less | same | more
  · exact Or.inr (Or.inl less)
  · exact bytes.imp (fun first => Or.inr ⟨same, first⟩) fun second => Or.inr ⟨same.symm, second⟩
  · exact Or.inl (Or.inl more)

theorem precedes_trans (first : a.precedes b = true) (second : b.precedes c = true)
    : a.precedes c = true := by
  rw [precedes_iff] at first second ⊢
  rcases first with farther | ⟨same, bytes⟩
  · left
    rcases second with also | ⟨same, -⟩ <;> omega
  · rcases second with farther | ⟨alike, more⟩
    · left
      omega
    · exact Or.inr ⟨same.trans alike, atMost_trans bytes more⟩

/-- Only rules with the same key are tied. -/
theorem key_eq_of_precedes (first : a.precedes b = true) (second : b.precedes a = true)
    : a.key = b.key := by
  rw [precedes_iff] at first second
  have bytes : a.keyBytes = b.keyBytes := by
    rcases first with farther | ⟨same, bytes⟩
    · rcases second with also | ⟨same, -⟩ <;> omega
    · rcases second with farther | ⟨-, back⟩
      · omega
      · exact eq_of_atMost bytes back
  have injective : Function.Injective UInt8.toNat := fun _ _ => UInt8.toNat_inj.mp
  have texts : Text.toBytes a.key = Text.toBytes b.key := List.map_injective_iff.mpr injective bytes
  have decoded := congrArg Text.ofBytes? texts
  rw [Text.ofBytes?_toBytes, Text.ofBytes?_toBytes] at decoded
  exact Option.some.inj decoded

-----------------------------------------------------------------------------------------
-- The rule that is applied
-----------------------------------------------------------------------------------------

/-- The rule that is applied to a URL: the first one whose key matches, in the order in which the
rules are tried.
-/
def selected? (rules : List PathOverride) (url : String) : Option PathOverride :=
  (rules.mergeSort precedes).find? fun rule => (captured? rule.key.toList url.toList).isSome

/-- Putting the root in place of its variable makes no difference to which rule is applied. -/
theorem arrange_eq (root : Path) (rules : List PathOverride)
    : arrange root rules = (rules.mergeSort precedes).map (expand root) :=
  (List.map_mergeSort (r := precedes) (s := precedes) (f := expand root) fun _ _ _ _ => rfl).symm

/-- A URL is redirected by the rule that is selected for it. -/
theorem redirect?_eq (root : Path) (rules : List PathOverride) (url : String)
    : (SourceResolver.ofOverrides root rules).redirect? url
      = (selected? rules url).bind fun rule => (rule.expand root).target? url := by
  have first (sorted : List PathOverride)
      : (sorted.map (expand root)).findSome? (·.target? url)
        = (sorted.find? fun rule => (captured? rule.key.toList url.toList).isSome).bind
            fun rule => (rule.expand root).target? url := by
    induction sorted with
    | nil => rfl
    | cons rule sorted ih =>
        have key : (rule.expand root).key = rule.key := rfl
        rw [List.map_cons, List.findSome?_cons, List.find?_cons, target?, key]
        cases captured : captured? rule.key.toList url.toList with
        | none => exact ih
        | some middle => simp [target?, key, captured]
  rw [SourceResolver.ofOverrides, SourceResolver.redirect?, arrange_eq, first, selected?]

/-- A rule is the one to apply to a URL: its key matches, and no other rule whose key matches is
tried before it.
-/
structure Selected (rules : List PathOverride) (url : String) (rule : PathOverride) : Prop where
  listed : rule ∈ rules
  isMatch : rule.Matches url
  first : ∀ other ∈ rules, other.Matches url → rule.precedes other = true

theorem isSome_captured?_iff
    : (captured? rule.key.toList url.toList).isSome = true ↔ rule.Matches url := by
  simp only [Option.isSome_iff_exists, captured?_eq_some_iff, Matches]

theorem Selected.of_selected? (found : selected? rules url = some rule)
    : Selected rules url rule := by
  obtain ⟨isMatch, before, behind, sorted, others⟩ := List.find?_eq_some_iff_append.mp found
  have isMatch := isSome_captured?_iff.mp isMatch
  have member (other : PathOverride)
      : other ∈ rules ↔ other ∈ before ++ rule :: behind := by
    rw [← sorted, List.mem_mergeSort]
  refine ⟨(member rule).mpr (by simp), isMatch, fun other listed also => ?_⟩
  have trans (a b c : PathOverride)
      : a.precedes b = true → b.precedes c = true → a.precedes c = true := precedes_trans
  have ordered := List.pairwise_mergeSort trans precedes_total rules
  rw [sorted] at ordered
  have later := (List.pairwise_cons.mp (List.pairwise_append.mp ordered).2.1).1
  rcases List.mem_append.mp ((member other).mp listed) with early | late
  · have unlike := others other early
    rw [isSome_captured?_iff.mpr also] at unlike
    cases unlike
  · rcases List.mem_cons.mp late with rfl | late
    · simpa using precedes_total other other
    · exact later other late

theorem selected?_eq_none_iff
    : selected? rules url = none ↔ ∀ rule ∈ rules, ¬ rule.Matches url := by
  simp only [selected?, List.find?_eq_none, List.mem_mergeSort, isSome_captured?_iff]

/-- Of rules with different keys only one is the one to apply. -/
theorem Selected.unique (distinct : (rules.map (·.key)).Nodup) (selected : Selected rules url a)
    (also : Selected rules url b)
    : a = b := by
  have keys := key_eq_of_precedes (selected.first b also.listed also.isMatch)
    (also.first a selected.listed selected.isMatch)
  exact List.inj_on_of_nodup_map distinct selected.listed also.listed keys

/-- The first rule in the order that matches is selected, and no two have one key. -/
theorem selected?_eq_some_iff (distinct : (rules.map (·.key)).Nodup)
    : selected? rules url = some rule ↔ Selected rules url rule := by
  constructor
  · exact Selected.of_selected?
  · intro selected
    cases found : selected? rules url with
    | none => exact absurd selected.isMatch (selected?_eq_none_iff.mp found rule selected.listed)
    | some other => rw [(Selected.of_selected? found).unique distinct selected]

/-- The order in which the rules are written does not matter to what is selected. -/
theorem Selected.of_perm (selected : Selected rules url rule) (perm : rules.Perm others)
    : Selected others url rule :=
  ⟨perm.mem_iff.mp selected.listed, selected.isMatch,
    fun other listed => selected.first other (perm.mem_iff.mpr listed)⟩

/-- Rules with different keys may be listed in any order. -/
theorem selected?_of_perm (distinct : (rules.map (·.key)).Nodup) (perm : rules.Perm others)
    (url : String)
    : selected? rules url = selected? others url := by
  have alsoDistinct := (perm.map (·.key)).nodup_iff.mp distinct
  refine Option.ext fun rule => ?_
  rw [selected?_eq_some_iff distinct, selected?_eq_some_iff alsoDistinct]
  exact ⟨fun selected => selected.of_perm perm, fun selected => selected.of_perm perm.symm⟩

-----------------------------------------------------------------------------------------
-- The length of its key
-----------------------------------------------------------------------------------------

theorem keyBytes_eq (rule : PathOverride)
    : rule.keyBytes = (Text.encoded rule.key.toList).map UInt8.toNat := by
  rw [keyBytes, Text.encoded_toList]

theorem length_keyBytes (rule : PathOverride)
    : rule.keyBytes.length = (Text.encoded rule.key.toList).length := by
  rw [keyBytes_eq, List.length_map]

theorem reach_of_star {head tail : List Char} (key : rule.key.toList = head ++ '*' :: tail)
    (plain : '*' ∉ head)
    : rule.reach = (Text.encoded head).length := by
  rw [reach, key, Text.splitFirst_append plain]
  rfl

theorem reach_of_plain (plain : '*' ∉ rule.key.toList)
    : rule.reach = (Text.encoded rule.key.toList).length := by
  rw [reach, Text.splitFirst_of_not_mem plain]
  rfl

/-- A key without a `*` is tried before all keys with one that match the same URL. -/
theorem plain_of_precedes {other : PathOverride} {middle left : List Char}
    (first : rule.precedes other = true)
    (captures : Captures rule.key.toList url.toList middle)
    (also : Captures other.key.toList url.toList left) (plain : '*' ∉ other.key.toList)
    : '*' ∉ rule.key.toList := by
  intro star
  have whole := (also.eq_of_plain plain).1
  obtain ⟨head, tail, key, front⟩ := List.eq_append_cons_of_mem star
  rw [key] at captures
  have parts := captures.eq_of_star front
  have reach := reach_of_star key front
  have otherReach := reach_of_plain plain
  rw [whole, parts] at otherReach
  simp only [Text.encoded_append, List.length_append] at otherReach
  rcases precedes_iff.mp first with farther | ⟨same, bytes⟩
  · omega
  · -- Nothing is behind the other text, which the key goes on from with its `*`.
    obtain ⟨rfl, rfl⟩ : middle = [] ∧ tail = [] := by
      constructor <;> refine Text.length_encoded_eq_zero_iff.mp ?_ <;> omega
    rw [keyBytes_eq, keyBytes_eq, whole, key, parts, List.append_nil, List.append_nil,
      Text.encoded_append, List.map_append] at bytes
    have longer := Lexicographic.atMost_append_cons ((Text.encoded head).map UInt8.toNat) 42 []
    exact absurd (longer.symm.trans bytes) (by decide)

/-- A rule whose key is as long as any that matches a URL. -/
def IsLongest (rules : List PathOverride) (url : String) (rule : PathOverride) : Prop :=
  ∀ other ∈ rules, other.Matches url → other.keyBytes.length ≤ rule.keyBytes.length

/-- Of two keys that match a URL the longer one is that whose `*` stands for less.  A key without a
`*` is as long as one whose `*` stands for a single byte.
-/
theorem length_keyBytes_le_iff {other : PathOverride} {middle left : List Char}
    (captures : Captures rule.key.toList url.toList middle)
    (also : Captures other.key.toList url.toList left) (star : '*' ∈ other.key.toList)
    : other.keyBytes.length ≤ rule.keyBytes.length
      ↔ if '*' ∈ rule.key.toList then
          (Text.encoded middle).length ≤ (Text.encoded left).length
        else left ≠ [] := by
  have size := also.size_of_star star
  rw [length_keyBytes, length_keyBytes]
  split
  case isTrue alsoStar =>
    have ruleSize := captures.size_of_star alsoStar
    omega
  case isFalse plain =>
    rw [(captures.eq_of_plain plain).1, ne_eq, ← Text.length_encoded_eq_zero_iff]
    omega

/-- The key of the rule that is applied is the longest one exactly if its `*` stands for least. -/
theorem Selected.isLongest_iff {middle : List Char} (selected : Selected rules url rule)
    (captures : Captures rule.key.toList url.toList middle)
    : IsLongest rules url rule
      ↔ ∀ other ∈ rules, ∀ left,
          '*' ∈ other.key.toList →
          Captures other.key.toList url.toList left →
          if '*' ∈ rule.key.toList then
            (Text.encoded middle).length ≤ (Text.encoded left).length
          else left ≠ [] := by
  constructor
  · intro longest other listed left star also
    exact (length_keyBytes_le_iff captures also star).mp (longest other listed ⟨left, also⟩)
  · rintro least other listed ⟨left, also⟩
    by_cases star : '*' ∈ other.key.toList
    · exact (length_keyBytes_le_iff captures also star).mpr (least other listed left star also)
    · have first := selected.first other listed ⟨left, also⟩
      have plain := plain_of_precedes first captures also star
      refine Nat.le_of_eq ?_
      rw [length_keyBytes, length_keyBytes, (captures.eq_of_plain plain).1,
        (also.eq_of_plain star).1]

theorem Selected.reach_le {other : PathOverride} (selected : Selected rules url rule)
    (listed : other ∈ rules) (isMatch : other.Matches url)
    : other.reach ≤ rule.reach := by
  rcases precedes_iff.mp (selected.first other listed isMatch) with farther | ⟨same, -⟩ <;> omega

/-- Where the matching keys end in their `*` the one with the most in front is the longest. -/
theorem Selected.isLongest_of_ends (selected : Selected rules url rule)
    (ends : ∀ other ∈ rules, other.Matches url →
      ∃ head, other.key.toList = head ++ ['*'] ∧ '*' ∉ head)
    : IsLongest rules url rule := by
  have size {other : PathOverride} (listed : other ∈ rules) (isMatch : other.Matches url)
      : other.keyBytes.length = other.reach + 1 := by
    obtain ⟨head, key, plain⟩ := ends other listed isMatch
    have one : Text.encoded ['*'] = [0x2A] := by decide
    rw [length_keyBytes, reach_of_star key plain, key, Text.encoded_append, one, List.length_append]
    rfl
  intro other listed isMatch
  rw [size listed isMatch, size selected.listed selected.isMatch]
  exact Nat.succ_le_succ (selected.reach_le listed isMatch)

-----------------------------------------------------------------------------------------
-- The path it redirects to
-----------------------------------------------------------------------------------------

/-- A value without the variable for the root stays as it is. -/
theorem expand_eq_self (absent : ¬ rootVariable <:+: rule.value.toList)
    : rule.expand root = rule := by
  rw [expand, Text.replaceAll_eq_self absent, String.ofList_toList]

/-- The target of a rule is its value filled with what is captured, folded. -/
theorem target?_of_captures (rule : PathOverride) {middle : List Char}
    (captures : Captures rule.key.toList url.toList middle)
    : rule.target? url
      = some (Path.ofString (String.ofList (fill rule.value.toList middle))).normalize := by
  rw [target?, captured?_eq_some_iff.mpr captures]
  rfl

end PathOverride

namespace SourceResolver

open PathOverride

variable {rules others : List PathOverride}

-----------------------------------------------------------------------------------------
-- What URLs are redirected to
-----------------------------------------------------------------------------------------

/-- Rules with different keys give every URL the same path in whatever order they are listed. -/
theorem resolve?_of_perm (distinct : (rules.map (·.key)).Nodup) (perm : rules.Perm others)
    (root : Path) (url : String)
    : (ofOverrides root rules).redirect? url = (ofOverrides root others).redirect? url
      ∧ (ofOverrides root rules).resolve? url = (ofOverrides root others).resolve? url := by
  have same : (ofOverrides root rules).redirect? url = (ofOverrides root others).redirect? url := by
    rw [redirect?_eq, redirect?_eq, selected?_of_perm distinct perm]
  exact ⟨same, by rw [resolve?, resolve?, same]⟩

theorem resolve?_reversed
    : let rules : List PathOverride :=
        [⟨"webpack:///*", "$\x7bworkspaceFolder\x7d/*"⟩, ⟨"webpack:///*.vue", "/vue/*.vue"⟩,
          ⟨"webpack:///./src/*", "$\x7bworkspaceFolder\x7d/app/src/*"⟩]
      let root := Path.ofString "/work"
      (rules.map (·.key)).Nodup
      ∧ rules.Perm rules.reverse
      ∧ (ofOverrides root rules).redirect? "webpack:///a.vue"
        = (ofOverrides root rules.reverse).redirect? "webpack:///a.vue"
      ∧ (ofOverrides root rules).resolve? "webpack:///a.vue"
        = (ofOverrides root rules.reverse).resolve? "webpack:///a.vue" := by
  intro rules root
  have distinct : (rules.map (·.key)).Nodup := by decide
  have perm : rules.Perm rules.reverse := (List.reverse_perm rules).symm
  exact ⟨distinct, perm, resolve?_of_perm distinct perm root "webpack:///a.vue"⟩

/-- A URL is redirected exactly if some key matches it, by the rule with the most in front of its
`*`; of those with equally much the first by its key.  Its key is the longest one that matches
exactly if no other `*` stands for less, as is so where nothing is behind the `*` of any key.
-/
theorem redirects_by_longest_iff (root : Path) (rules : List PathOverride) (url : String)
    : ((ofOverrides root rules).redirect? url = none ↔ ∀ rule ∈ rules, ¬ rule.Matches url)
      ∧ ((∃ rule ∈ rules, rule.Matches url) →
          ∃ rule ∈ rules, ∃ middle,
            Captures rule.key.toList url.toList middle
            ∧ (ofOverrides root rules).redirect? url
              = some (Path.ofString
                  (String.ofList (fill (rule.expand root).value.toList middle))).normalize
            ∧ (∀ other ∈ rules,
                other.Matches url →
                other.reach < rule.reach
                ∨ other.reach = rule.reach ∧ atMost rule.keyBytes other.keyBytes = true)
            ∧ (IsLongest rules url rule
              ↔ ∀ other ∈ rules, ∀ left,
                  '*' ∈ other.key.toList →
                  Captures other.key.toList url.toList left →
                  if '*' ∈ rule.key.toList then
                    (Text.encoded middle).length ≤ (Text.encoded left).length
                  else left ≠ [])
            ∧ ((∀ other ∈ rules,
                  other.Matches url →
                  ∃ head, other.key.toList = head ++ ['*'] ∧ '*' ∉ head) →
                IsLongest rules url rule)) := by
  have redirected {rule : PathOverride} {middle : List Char}
      (found : selected? rules url = some rule)
      (captures : Captures rule.key.toList url.toList middle)
      : (ofOverrides root rules).redirect? url
        = some (Path.ofString
            (String.ofList (fill (rule.expand root).value.toList middle))).normalize := by
    rw [redirect?_eq, found, Option.bind_some,
      target?_of_captures (rule.expand root) captures]
  refine ⟨?_, ?_⟩
  · rw [← selected?_eq_none_iff]
    constructor
    · intro nowhere
      cases found : selected? rules url with
      | none => rfl
      | some rule =>
          obtain ⟨middle, captures⟩ := (Selected.of_selected? found).isMatch
          rw [redirected found captures] at nowhere
          cases nowhere
    · intro unmatched
      rw [redirect?_eq, unmatched, Option.bind_none]
  · rintro ⟨other, listed, isMatch⟩
    cases found : selected? rules url with
    | none => exact absurd isMatch (selected?_eq_none_iff.mp found other listed)
    | some rule =>
        have selected := Selected.of_selected? found
        obtain ⟨middle, captures⟩ := selected.isMatch
        refine ⟨rule, selected.listed, middle, captures, redirected found captures, ?_,
          selected.isLongest_iff captures, selected.isLongest_of_ends⟩
        intro other listed isMatch
        exact (precedes_iff.mp (selected.first other listed isMatch)).imp_right
          fun ⟨same, bytes⟩ => ⟨same.symm, bytes⟩

theorem redirects_by_longest_below_src
    : let rules : List PathOverride :=
        [⟨"webpack:///*", "/work/*"⟩, ⟨"webpack:///./src/*", "/work/app/src/*"⟩]
      let root := Path.ofString "/work"
      let url := "webpack:///./src/index.ts"
      (∃ rule ∈ rules, rule.Matches url)
      ∧ (∀ other ∈ rules, ∃ head, other.key.toList = head ++ ['*'] ∧ '*' ∉ head)
      ∧ ∃ rule ∈ rules, ∃ middle,
          Captures rule.key.toList url.toList middle
          ∧ IsLongest rules url rule
          ∧ (ofOverrides root rules).redirect? url
            = some (Path.ofString
                (String.ofList (fill (rule.expand root).value.toList middle))).normalize := by
  intro rules root url
  have isMatch : ∃ rule ∈ rules, rule.Matches url :=
    ⟨rules[0], List.mem_cons_self, isSome_captured?_iff.mp (by decide)⟩
  have ends : ∀ other ∈ rules, ∃ head, other.key.toList = head ++ ['*'] ∧ '*' ∉ head := by
    have all : ∀ other ∈ rules,
        other.key.toList = other.key.toList.dropLast ++ ['*']
        ∧ '*' ∉ other.key.toList.dropLast := by decide
    exact fun other listed => ⟨_, all other listed⟩
  obtain ⟨rule, listed, middle, captures, redirected, -, -, longest⟩ :=
    (redirects_by_longest_iff root rules url).2 isMatch
  refine ⟨isMatch, ends, rule, listed, middle, captures, longest ?_, redirected⟩
  exact fun other listed _ => ends other listed

/-- What is behind the `*` of a key does not count, so the key that ends in `.vue` is never applied
beside the one that ends in its `*`.
-/
theorem longer_key_passed_over
    : let rules : List PathOverride :=
        [⟨"webpack:///*", "/work/*"⟩, ⟨"webpack:///*.vue", "/work/vue/*.vue"⟩]
      let root := Path.ofString "/work"
      let url := "webpack:///a.vue"
      (rules.map (·.key)).Nodup
      ∧ (∃ rule ∈ rules, rule.Matches url)
      ∧ ¬ ∃ rule ∈ rules,
          rule.Matches url
          ∧ IsLongest rules url rule
          ∧ (ofOverrides root rules).redirect? url = (rule.expand root).target? url := by
  intro rules root url
  have distinct : (rules.map (·.key)).Nodup := by decide
  have general : rules[0].Matches url := isSome_captured?_iff.mp (by decide)
  have special : rules[1].Matches url := isSome_captured?_iff.mp (by decide)
  have selected : selected? rules url = some rules[0] := by
    refine (selected?_eq_some_iff distinct).mpr ⟨List.mem_cons_self, general, ?_⟩
    have all : ∀ other ∈ rules, rules[0].precedes other = true := by decide
    exact fun other listed _ => all other listed
  refine ⟨distinct, ⟨_, List.mem_cons_self, general⟩, ?_⟩
  rintro ⟨rule, listed, -, longest, applied⟩
  have own (rule : PathOverride) (absent : '$' ∉ rule.value.toList) : rule.expand root = rule :=
    expand_eq_self fun among => absent (among.subset List.mem_cons_self)
  rw [redirect?_eq, selected, Option.bind_some, own rules[0] (by decide)] at applied
  rcases List.mem_cons.mp listed with rfl | listed
  · have short := longest rules[1] (by simp) special
    exact absurd short (by decide)
  · obtain rfl := List.mem_singleton.mp listed
    rw [own _ (by decide)] at applied
    exact absurd applied (by decide)

end SourceResolver

end EarlyBreak
