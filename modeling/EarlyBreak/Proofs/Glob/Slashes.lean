import EarlyBreak.Proofs.Glob.Folders

/-! What slashes in patterns match.  Outside classes a slash is read as a token that only matches
texts with a slash, or it belongs to the `**/` in front, which matches any folders.
-/

namespace EarlyBreak.Glob

open EarlyBreak.Path (slash)

namespace Reading

variable {r after : Reading} {c : Char} {s : List Char}

/-- A slash has just been read, by itself or as the end of some folders. -/
structure AtSlash (r : Reading) : Prop where
  mode : r.mode = .plain
  token
    : ∃ token rest,
        r.tokens = token :: rest
        ∧ token ∈ [.leadingDirs, .literal '/', .innerDirs, .trailingDirs]

theorem atSlash_push (mode : r.mode = .plain) : (r.push (.literal '/')).AtSlash :=
  ⟨mode, _, _, rfl, by simp⟩

theorem atSlash_replaceLast (mode : r.mode = .plain) : (r.replaceLast .innerDirs).AtSlash := by
  refine ⟨(replaceLast_mode r _).trans mode, ?_⟩
  unfold replaceLast
  split
  case h_1 rest tokens => exact ⟨_, rest, tokens, by simp⟩
  case h_2 rest tokens => exact ⟨_, rest, tokens, by simp⟩
  case h_3 => exact ⟨_, _, rfl, by simp⟩
  case h_4 => exact ⟨_, _, rfl, by simp⟩

/-- A slash behind two stars is read as one, whatever the stars become. -/
theorem atSlash_afterStars {before : Option Char} (mode : r.mode = .plain)
    (read : r.afterStars before '/' = .ok after)
    : after.AtSlash := by
  unfold afterStars at read
  split at read
  case isTrue =>
    cases read
    exact ⟨mode, _, _, rfl, by simp⟩
  case isFalse =>
    split at read
    · cases read
      exact atSlash_push mode
    · simp only [Char.reduceBEq, Bool.or_self, Bool.and_false, Bool.false_eq_true, if_false,
        if_true] at read
      cases read
      exact atSlash_replaceLast mode

/-- A slash is read as one outside classes. -/
theorem next_slash (read : r.next '/' = .ok after)
    : after.AtSlash ∨ ∃ cls, after.mode = .inClass cls := by
  obtain ⟨further, step, rfl⟩ := exists_step read
  suffices further.AtSlash ∨ ∃ cls, further.mode = .inClass cls from
    this.imp_left fun at' => ⟨at'.mode, at'.token⟩
  unfold Reading.step at step
  split at step
  case h_1 mode =>
    cases step
    exact .inl (atSlash_push mode)
  case h_2 =>
    cases step
    exact .inl ⟨rfl, _, _, rfl, by simp⟩
  case h_3 =>
    cases step
    exact .inl (atSlash_push rfl)
  case h_4 => exact .inl (atSlash_afterStars rfl step)
  case h_5 =>
    cases step
    exact .inr ⟨_, rfl⟩
  case h_6 cls mode =>
    right
    unfold classChar at step
    split at step
    · cases step
      exact ⟨_, rfl⟩
    · split_ifs at step <;> cases step <;> first | exact ⟨_, rfl⟩ | simp_all

theorem next_inClass {cls : OpenClass} (mode : r.mode = .inClass cls)
    (read : r.next 'a' = .ok after)
    : ∃ cls, after.mode = .inClass cls := by
  obtain ⟨further, step, rfl⟩ := exists_step read
  rw [Reading.step, mode] at step
  simp only [classChar] at step
  split at step
  · cases step
    exact ⟨_, rfl⟩
  · split_ifs at step <;> cases step <;> first | exact ⟨_, rfl⟩ | simp_all

end Reading

/-- A pattern with a slash before its last letter that matches the letter alone matches it in a
folder as well: all that it has in front are the folders at its start.
-/
theorem isMatch_inFolder {front : List Char} {glob : Glob}
    (parsed : parse (front ++ "/a".toList) = .ok glob) (matched : glob.isMatch "a" = true)
    : glob.isMatch "b/a" = true := by
  obtain ⟨last, read, finish⟩ := parse_eq_ok_iff.mp parsed
  have cut : front ++ "/a".toList = (front ++ ['/']) ++ ['a'] := by simp
  rw [cut] at read
  obtain ⟨r, readSlash, name⟩ := Reading.exists_next read
  obtain ⟨before, -, slash⟩ := Reading.exists_next readSlash
  rcases Reading.next_slash slash with ⟨mode, token, rest, tokens, among⟩ | ⟨cls, mode⟩
  · obtain ⟨_, previous, _, groups⟩ := r
    obtain rfl : _ = Mode.plain := mode
    obtain rfl : _ = token :: rest := tokens
    obtain ⟨ungrouped, same⟩ : groups = [] ∧ glob = ⟨(.literal 'a' :: token :: rest).reverse⟩ := by
      cases name
      cases groups <;> cases finish
      exact ⟨rfl, rfl⟩
    have whole : glob.tokens = rest.reverse ++ [token] ++ [.literal 'a'] := by simp [same]
    have several : glob.tokens ≠ [.leadingDirs] := by
      intro lead
      simpa [whole] using congrArg List.getLast? lead
    have spelled := (isMatch_iff.mp matched).2.resolve_left several
    rw [whole, spells_concat] at spelled
    obtain ⟨folders, _, bytes, inFront, rfl⟩ := spelled
    -- The letter is all there is, so nothing is left for the token in front of it.
    obtain rfl : folders = [] := List.self_eq_append_left.mp bytes
    obtain ⟨_, _, empty, -, nothing⟩ := spells_concat.mp inFront
    obtain ⟨rfl, rfl⟩ := List.append_eq_nil_iff.mp empty.symm
    simp only [List.mem_cons, List.not_mem_nil, or_false] at among
    rcases among with rfl | rfl | rfl | rfl
    · obtain rfl := Reading.leadsAlone readSlash rest rfl
      refine isMatch_iff.mpr ⟨fun above => absurd above (by decide), .inr ?_⟩
      rw [whole, spells_concat]
      refine ⟨Text.toBytes "b/", Text.toBytes "a", by decide, ?_, rfl⟩
      exact spells_concat.mpr ⟨[], _, rfl, rfl, .inr ⟨Text.toBytes "b", by decide⟩⟩
    · have text : [] = Text.toBytes '/'.toString := nothing
      exact absurd text (by decide)
    · obtain ⟨_, impossible, -⟩ := nothing
      cases impossible
    · obtain ⟨_, impossible⟩ := nothing
      cases impossible
  · obtain ⟨cls, mode⟩ := Reading.next_inClass mode name
    rw [Reading.finish, mode] at finish
    cases finish

end EarlyBreak.Glob
