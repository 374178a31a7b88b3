import EarlyBreak.Proofs.Entry.Matching
import EarlyBreak.Proofs.Regex.Covering
import EarlyBreak.Proofs.Text.Cuts
import Mathlib.Data.List.DropRight

/-! Which names an entry pattern matches: those that end in a path segment which is the stem of the
guarded file, alone or with something behind it that does not go on with a letter or a digit.
-/

namespace EarlyBreak

namespace Entry

/-- A text that a file name can follow: an empty one, or one that ends in a slash or backslash. -/
def Leads (text : List Char) : Prop :=
  text = [] ∨ ∃ folders slash, text = folders ++ [slash] ∧ (slash = '/' ∨ slash = '\\')

/-- A text that can follow a stem: an empty one, or one that starts with no ASCII letter or digit
and has no line feed after that first character.
-/
def Follows (text : List Char) : Prop :=
  text = [] ∨ ∃ c rest, text = c :: rest ∧ Text.isAsciiAlphanumeric c = false ∧ '\n' ∉ rest

/-- The stem of a URL: what follows the last slash or backslash, without the part from the last dot
on unless that dot is its first character.
-/
def IsStem (url stem : List Char) : Prop :=
  ∃ folder name,
    url = folder ++ name
    ∧ Leads folder
    ∧ '/' ∉ name
    ∧ '\\' ∉ name
    ∧ ((stem ≠ [] ∧ ∃ extension, name = stem ++ '.' :: extension ∧ '.' ∉ extension)
      ∨ (stem = name ∧ '.' ∉ name.tail))

/-- A name without slashes behind its folder is the base name. -/
theorem baseName_append {folder name : List Char} (leads : Leads folder) (slash : '/' ∉ name)
    (backslash : '\\' ∉ name)
    : baseName (folder ++ name) = name := by
  have plain : ∀ c ∈ name.reverse, (c != '/' && c != '\\') = true := by
    intro c member
    have member := List.mem_reverse.mp member
    simp only [Bool.and_eq_true, bne_iff_ne]
    exact ⟨fun same => slash (same ▸ member), fun same => backslash (same ▸ member)⟩
  rw [baseName, List.reverse_append, List.takeWhile_append_of_pos plain]
  rcases leads with rfl | ⟨folders, _, rfl, rfl | rfl⟩ <;> simp

/-- Every URL is a folder and its base name. -/
theorem exists_folder (url : List Char)
    : ∃ folder,
        url = folder ++ baseName url
        ∧ Leads folder
        ∧ '/' ∉ baseName url
        ∧ '\\' ∉ baseName url := by
  have plain : ∀ c ∈ baseName url, (c != '/' && c != '\\') = true :=
    fun c member => List.mem_rtakeWhile_imp (x := c) member
  refine ⟨url.rdropWhile fun c => c != '/' && c != '\\', ?_, ?_, ?_, ?_⟩
  · exact List.rdropWhile_append_rtakeWhile.symm
  · by_cases none : (url.rdropWhile fun c => c != '/' && c != '\\') = []
    · exact .inl none
    · have ending := List.rdropWhile_last_not _ _ none
      refine .inr ⟨_, _, (List.dropLast_append_getLast none).symm, ?_⟩
      simpa [or_iff_not_imp_left] using ending
  · exact fun member => by simpa using plain _ member
  · exact fun member => by simpa using plain _ member

/-- Each URL has its stem and no other. -/
theorem isStem_iff {url other : List Char} : IsStem url other ↔ other = stem url := by
  constructor
  · rintro ⟨folder, name, rfl, leads, slash, backslash, cut⟩
    rw [stem, baseName_append leads slash backslash]
    rcases cut with ⟨some, extension, rfl, last⟩ | ⟨rfl, only⟩
    · simp [Text.splitLast?_append last, some]
    · by_cases dotted : '.' ∈ other
      · obtain ⟨before, behind, rfl, last⟩ := Text.exists_last_cut dotted
        -- No dot but the first, so nothing stands before the one behind which there is no other.
        have first : before = [] := by
          cases before with
          | nil => rfl
          | cons c before => simp at only
        simp only [Text.splitLast?_append last, first, List.isEmpty_nil, if_true]
      · simp [Text.splitLast?_of_not_mem dotted]
  · rintro rfl
    obtain ⟨folder, cut, leads, slash, backslash⟩ := exists_folder url
    refine ⟨folder, baseName url, cut, leads, slash, backslash, ?_⟩
    rw [stem]
    by_cases dotted : '.' ∈ baseName url
    · obtain ⟨before, behind, name, last⟩ := Text.exists_last_cut dotted
      simp only [name, Text.splitLast?_append last]
      cases before with
      | nil => exact .inr ⟨rfl, last⟩
      | cons c before => exact .inl ⟨List.cons_ne_nil _ _, behind, rfl, last⟩
    · simp only [Text.splitLast?_of_not_mem dotted]
      exact .inr ⟨trivial, mt List.mem_of_mem_tail dotted⟩

/-- Dots match a text exactly if it is on one line. -/
theorem all_dot_iff {text : List Char}
    : (∀ c ∈ text, Regex.CharSet.dot.has c = true) ↔ '\n' ∉ text := by
  simp [Regex.CharSet.has, List.forall_mem_ne']

/-- What stands before the stem in a match is nothing, at the start of the text, or it ends in a
slash.
-/
theorem covers_lead_iff {before part behind : List Char}
    : (Regex.either .start (.sequence (.many .dot) (.one (.among ['\\', '/'])))).Covers
          before part behind
      ↔ (before = [] ∧ part = [])
        ∨ ∃ folders slash,
            part = folders ++ [slash] ∧ (slash = '/' ∨ slash = '\\') ∧ '\n' ∉ folders := by
  have slashes (c : Char)
      : (Regex.CharSet.among ['\\', '/']).has c = true ↔ c = '/' ∨ c = '\\' := by
    simp [Regex.CharSet.has, or_comm]
  simp only [Regex.Covers, slashes, all_dot_iff]
  refine or_congr_right ?_
  constructor
  · rintro ⟨folders, _, rfl, line, slash, ends, rfl⟩
    exact ⟨folders, slash, rfl, ends, line⟩
  · rintro ⟨folders, slash, rfl, ends, line⟩
    exact ⟨folders, [slash], rfl, line, slash, ends, rfl⟩

/-- What stands behind the stem in a match reaches to the end of the text. -/
theorem covers_follow_iff {before part behind : List Char}
    : (Regex.sequence (.optional (.sequence (.one .notAlphanumeric) (.many .dot))) .finish).Covers
          before part behind
      ↔ Follows part ∧ behind = [] := by
  simp only [Regex.Covers, all_dot_iff, Follows]
  constructor
  · rintro ⟨_, _, rfl, ⟨_, rest, rfl, ⟨c, other, rfl⟩, line⟩ | rfl, rfl, rfl⟩
    · exact ⟨.inr ⟨c, rest, List.append_nil _, by simpa [Regex.CharSet.has] using other, line⟩, rfl⟩
    · exact ⟨.inl rfl, rfl⟩
  · rintro ⟨rfl | ⟨c, rest, rfl, other, line⟩, rfl⟩
    · exact ⟨[], [], rfl, .inr rfl, rfl, rfl⟩
    · exact ⟨c :: rest, [], (List.append_nil _).symm,
        .inl ⟨[c], rest, rfl, ⟨c, by simpa [Regex.CharSet.has] using other, rfl⟩, line⟩, rfl, rfl⟩

/-- An entry expression is found in the texts that have its stem as a whole segment. -/
theorem search_expression_iff {stem text : List Char}
    : (expression stem).search text = true
      ↔ ∃ before behind, text = before ++ stem ++ behind ∧ Leads before ∧ Follows behind := by
  rw [Regex.search_iff]
  constructor
  · rintro ⟨before, _, _, rfl, lead, _, rfl, leads, _, follow, rfl, rfl, reaches⟩
    obtain ⟨follows, rfl⟩ := covers_follow_iff.mp reaches
    refine ⟨before ++ lead, follow, by simp, ?_, follows⟩
    rcases covers_lead_iff.mp leads with ⟨rfl, rfl⟩ | ⟨folders, slash, rfl, ends, -⟩
    · exact .inl rfl
    · exact .inr ⟨before ++ folders, slash, (List.append_assoc _ _ _).symm, ends⟩
  · rintro ⟨_, behind, rfl, rfl | ⟨folders, slash, rfl, ends⟩, follows⟩
    · -- At the start of the text the stem needs no slash in front.
      refine ⟨[], stem ++ behind, [], by simp, [], stem ++ behind, rfl,
        covers_lead_iff.mpr (.inl ⟨rfl, rfl⟩), stem, behind, rfl, rfl, ?_⟩
      exact covers_follow_iff.mpr ⟨follows, rfl⟩
    · -- Elsewhere a match starts at the slash, so that what comes before may have line feeds.
      refine ⟨folders, slash :: (stem ++ behind), [], by simp, [slash], stem ++ behind, rfl,
        covers_lead_iff.mpr (.inr ⟨[], slash, rfl, ends, nofun⟩), stem, behind, rfl, rfl, ?_⟩
      exact covers_follow_iff.mpr ⟨follows, rfl⟩

/-- Every URL has exactly one stem, and its pattern matches exactly the texts that consist of
something that a file name can follow, the stem, and something that can follow a stem.
-/
theorem matches_exactly_named (url : String)
    : ∃ stem,
        (∀ other, IsStem url.toList other ↔ other = stem)
        ∧ ∀ text,
            Matches (pattern url) text
            ↔ ∃ before behind,
                text.toList = before ++ stem ++ behind ∧ Leads before ∧ Follows behind := by
  refine ⟨stem url.toList, fun _ => isStem_iff, fun text => ?_⟩
  rw [pattern, matches_iff, search_expression_iff]

-- What has a meaning in expressions has none in a stem.
example
    : ["out/a+b(1).min.js", "out\na+b(1)\n", "out/aab1.js", "out/a+b(1)x.js"].map
        (fun text => (expression (stem "/src/a+b(1).ts".toList)).search text.toList)
      = [true, false, false, false] := by
  decide +kernel

end Entry

end EarlyBreak
