import EarlyBreak.PathOverride
import EarlyBreak.Proofs.OutFiles.Pieces

/-! Which URLs the key of a rule matches.  What a key spells of a URL and what its `*` stands for
make up the URL together, so the longest key is the one whose `*` stands for least.
-/

namespace EarlyBreak.PathOverride

variable {key url middle : List Char}

/-- A key matches a URL with something in the place of its first `*`; one without a `*` only matches
itself.
-/
inductive Captures : (key url middle : List Char) → Prop
  | whole {key : List Char} (plain : '*' ∉ key) : Captures key key []
  | star {head : List Char} (plain : '*' ∉ head) (tail middle : List Char)
    : Captures (head ++ '*' :: tail) (head ++ middle ++ tail) middle

theorem captured?_of_plain (plain : '*' ∉ key)
    : captured? key url = some middle ↔ key = url ∧ middle = [] := by
  rw [captured?, Text.splitFirst_of_not_mem plain]
  simp only
  split
  case isTrue same => simp [same, eq_comm]
  case isFalse other => simp [other]

/-- A key with a star captures what stands between its parts. -/
theorem captured?_of_star {head : List Char} (plain : '*' ∉ head) (tail : List Char)
    : captured? (head ++ '*' :: tail) url = some middle ↔ url = head ++ middle ++ tail := by
  rw [captured?, Text.splitFirst_append plain]
  simp only [Option.bind_eq_some_iff, Text.dropStart?_eq_some_iff, Text.dropEnd?_eq_some_iff]
  simp

/-- What is captured is decided by whether the key has a star. -/
theorem captured?_eq_some_iff : captured? key url = some middle ↔ Captures key url middle := by
  constructor
  · intro captured
    by_cases star : '*' ∈ key
    · obtain ⟨head, tail, rfl, plain⟩ := List.eq_append_cons_of_mem star
      obtain rfl := (captured?_of_star plain tail).mp captured
      exact .star plain tail middle
    · obtain ⟨rfl, rfl⟩ := (captured?_of_plain star).mp captured
      exact .whole star
  · intro captures
    cases captures with
    | whole plain => exact (captured?_of_plain plain).mpr ⟨rfl, rfl⟩
    | star plain tail => exact (captured?_of_star plain tail).mpr rfl

theorem Captures.eq_of_plain (captures : Captures key url middle) (plain : '*' ∉ key)
    : key = url ∧ middle = [] :=
  (captured?_of_plain plain).mp (captured?_eq_some_iff.mpr captures)

theorem Captures.eq_of_star {head tail : List Char}
    (captures : Captures (head ++ '*' :: tail) url middle) (plain : '*' ∉ head)
    : url = head ++ middle ++ tail :=
  (captured?_of_star plain tail).mp (captured?_eq_some_iff.mpr captures)

/-- What a key spells and what its `*` stands for make up the URL, but for the `*` itself. -/
theorem Captures.size_of_star (captures : Captures key url middle) (star : '*' ∈ key)
    : (Text.encoded key).length + (Text.encoded middle).length = (Text.encoded url).length + 1 := by
  cases captures with
  | whole plain => exact absurd star plain
  | star plain tail =>
      have one : Text.encoded ['*'] = [0x2A] := by decide
      rw [← List.singleton_append]
      simp only [Text.encoded_append, one, List.length_append, List.length_singleton]
      omega

/-- Whether the key of a rule matches a URL. -/
def Matches (rule : PathOverride) (url : String) : Prop :=
  ∃ middle, Captures rule.key.toList url.toList middle

end EarlyBreak.PathOverride
