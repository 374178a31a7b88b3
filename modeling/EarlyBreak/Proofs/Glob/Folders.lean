import EarlyBreak.Proofs.Glob.Language
import EarlyBreak.Proofs.Glob.Opened

/-! Patterns that end in `/**`, and the patterns in front of those stars.  The shorter one is read
as the same tokens but for the last one, so what it matches is a folder in which the longer one
matches everything.  Patterns of nothing but `**/` are the exception: they match files as well.
-/

namespace EarlyBreak.Glob

open EarlyBreak.Path (slash)

/-- Nothing but `**/`, some number of times. -/
def anyFolders (count : Nat) : List Char := (List.replicate count "**/".toList).flatten

theorem anyFolders_succ (count : Nat)
    : anyFolders (count + 1) = anyFolders count ++ ['*', '*', '/'] := by
  simp [anyFolders, List.replicate_succ']

-----------------------------------------------------------------------------------------
-- Readings with few tokens
-----------------------------------------------------------------------------------------

namespace Reading

variable {r after : Reading} {c : Char} {s stars : List Char}

/-- The stars that wait for the next character, outside escapes and classes. -/
def waiting? (mode : Mode) : Option (List Char) :=
  match mode with
  | .plain => some []
  | .oneStar _ => some ['*']
  | .twoStars _ => some ['*', '*']
  | .escaped | .classStart | .inClass _ => none

/-- Nothing is read but folders at the start, and no group is open. -/
structure IsShort (r : Reading) : Prop where
  groups : r.groups = []
  tokens : r.tokens = [] ∨ r.tokens = [.leadingDirs]

/-- A character adds a token or opens something, unless it is a star. -/
theorem plain_short (read : r.plain c = .ok after) (short : after.IsShort)
    : r.IsShort
      ∧ after.tokens = r.tokens
      ∧ (c = '*' ∧ after.mode = .oneStar r.previous ∨ waiting? after.mode = none) := by
  obtain ⟨ungrouped, few⟩ := short
  unfold plain push at read
  split at read
  case h_2 =>
    cases read
    exact ⟨⟨ungrouped, few⟩, rfl, .inl ⟨rfl, rfl⟩⟩
  case h_3 | h_4 =>
    cases read
    exact ⟨⟨ungrouped, few⟩, rfl, .inr rfl⟩
  case h_5 =>
    cases read
    cases ungrouped
  case h_1 | h_8 =>
    cases read
    simp at few
  case h_6 =>
    -- A group that ends is a token.
    split at read <;> cases read
    simp at few
  case h_7 =>
    split at read <;> cases read
    · simp at few
    · cases ungrouped

/-- Only folders at the start keep what has been read that short, and only as they are. -/
theorem replaceLast_short {token : Token} (short : (r.replaceLast token).IsShort)
    (other : token ≠ .leadingDirs)
    : r.IsShort ∧ r.replaceLast token = r ∧ r.tokens = [.leadingDirs] := by
  have ungrouped := (replaceLast_groups r token).symm.trans short.groups
  have few := short.tokens
  unfold replaceLast at few ⊢
  split at few
  case h_1 rest tokens =>
    have alone : r.tokens = [.leadingDirs] := few.resolve_left (by simp [tokens])
    exact ⟨⟨ungrouped, .inr alone⟩, rfl, alone⟩
  case h_2 rest tokens => simp [tokens] at few
  case h_3 => simp [other] at few
  case h_4 => simp [other] at few

/-- Two stars leave as little only before a slash. -/
theorem afterStars_short {before : Option Char} (read : r.afterStars before c = .ok after)
    (mode : r.mode = .plain) (short : after.IsShort)
    : r.IsShort ∧ c = '/' ∧ after.mode = .plain ∧ after.tokens = [.leadingDirs] := by
  have notStars : r.pushStars.plain c ≠ .ok after := by
    intro stars
    have few := (plain_short stars short).1.tokens
    simp [pushStars, push] at few
  unfold afterStars at read
  split at read
  case isTrue empty =>
    split at read
    case isTrue isSlash =>
      have none := List.isEmpty_iff.mp empty
      cases read
      exact ⟨⟨short.groups, .inl none⟩, isSlash, mode, by simp [push, none]⟩
    case isFalse => exact absurd read notStars
  case isFalse nonempty =>
    split at read
    case isTrue => exact absurd read notStars
    case isFalse =>
      split at read
      case isTrue grouped =>
        have short := (replaceLast_short (plain_short read short).1 (by simp)).1
        simp [short.groups] at grouped
      case isFalse =>
        split at read
        case isTrue isSlash =>
          cases read
          obtain ⟨few, same, alone⟩ := replaceLast_short short (by simp)
          exact ⟨few, isSlash, by rw [same, mode], by rw [same, alone]⟩
        case isFalse => exact absurd read notStars

/-- What a character of a class leaves that short waits for no star. -/
theorem classChar_long {cls : OpenClass} (read : r.classChar cls c = .ok after)
    (short : after.IsShort)
    : waiting? after.mode = none := by
  unfold classChar push at read
  split at read
  case h_1 =>
    cases read
    rfl
  case h_2 =>
    have few := short.tokens
    split_ifs at read <;> cases read <;> first | rfl | simp at few

theorem exists_step (read : r.next c = .ok after)
    : ∃ further, r.step c = .ok further ∧ after = { further with previous := some c } := by
  unfold next at read
  cases step : r.step c with
  | error fault => simp [step, Except.map] at read
  | ok further =>
      rw [step] at read
      cases read
      exact ⟨further, rfl, rfl⟩

/-- Before a character that leaves as little there was as little, and the character is a star that
waits, or the slash behind two of them.
-/
theorem next_short (read : r.next c = .ok after) (short : after.IsShort)
    (waits : waiting? after.mode = some stars)
    : r.IsShort
      ∧ ∃ fewer,
          waiting? r.mode = some fewer
          ∧ (fewer ++ [c] = stars ∧ after.tokens = r.tokens
            ∨ fewer ++ [c] = ['*', '*', '/'] ∧ stars = [] ∧ after.tokens = [.leadingDirs]) := by
  obtain ⟨further, step, rfl⟩ := exists_step read
  replace short : further.IsShort := ⟨short.groups, short.tokens⟩
  simp only at waits ⊢
  unfold Reading.step at step
  split at step
  case h_1 mode =>
    obtain ⟨few, same, ⟨rfl, star⟩ | nothing⟩ := plain_short step short
    · rw [star] at waits
      obtain rfl : ['*'] = stars := Option.some.inj waits
      exact ⟨few, [], by rw [mode]; rfl, .inl ⟨rfl, same⟩⟩
    · simp [nothing] at waits
  case h_2 =>
    cases step
    have few := short.tokens
    simp [push] at few
  case h_3 before mode =>
    split at step
    case isTrue star =>
      cases step
      obtain rfl : ['*', '*'] = stars := Option.some.inj waits
      exact ⟨⟨short.groups, short.tokens⟩, ['*'], by rw [mode]; rfl, .inl ⟨by rw [star]; rfl, rfl⟩⟩
    case isFalse =>
      have few := (plain_short step short).1.tokens
      simp [push] at few
  case h_4 before mode =>
    obtain ⟨few, rfl, plain, alone⟩ := afterStars_short step rfl short
    rw [plain] at waits
    obtain rfl : [] = stars := Option.some.inj waits
    exact ⟨⟨few.groups, few.tokens⟩, ['*', '*'], by rw [mode]; rfl, .inr ⟨rfl, rfl, alone⟩⟩
  case h_5 =>
    split at step
    · cases step
      cases waits
    · simp [classChar_long step short] at waits
  case h_6 => simp [classChar_long step short] at waits

theorem exists_next (read : (s ++ [c]).foldlM next start = .ok after)
    : ∃ r, s.foldlM next start = .ok r ∧ r.next c = .ok after := by
  rw [List.foldlM_append] at read
  cases front : s.foldlM next start with
  | error fault => simp [front, bind, Except.bind] at read
  | ok r =>
      refine ⟨r, rfl, ?_⟩
      cases last : r.next c <;> simp_all [bind, Except.bind, pure, Except.pure]

/-- What is read that short is a text of folders, by induction on the text from its end. -/
theorem text_of_short (read : s.foldlM next start = .ok r) (short : r.IsShort)
    (waits : waiting? r.mode = some stars)
    : ∃ count, s = anyFolders count ++ stars ∧ (r.tokens = [] ↔ count = 0) := by
  induction s using List.reverseRecOn generalizing r stars with
  | nil =>
      cases read
      obtain rfl : [] = stars := Option.some.inj waits
      exact ⟨0, rfl, iff_of_true rfl rfl⟩
  | append_singleton s c ih =>
      obtain ⟨before, front, next⟩ := exists_next read
      obtain ⟨few, fewer, waited, ⟨same, tokens⟩ | ⟨same, rfl, tokens⟩⟩ :=
        next_short next short waits
      · obtain ⟨count, rfl, none⟩ := ih front few waited
        exact ⟨count, by rw [List.append_assoc, same], by rw [tokens, none]⟩
      · obtain ⟨count, rfl, -⟩ := ih front few waited
        refine ⟨count + 1, ?_, ?_⟩
        · rw [List.append_assoc, same, anyFolders_succ, List.append_nil]
        · simp [tokens]

/-- A text of folders is read as the folders at the start, by induction on their number. -/
theorem foldlM_anyFolders (count : Nat)
    : (anyFolders (count + 1)).foldlM next start
      = .ok ⟨.plain, some '/', [.leadingDirs], []⟩ := by
  induction count with
  | zero => rfl
  | succ count ih =>
      rw [anyFolders_succ, List.foldlM_append, ih]
      rfl

/-- Folders at the start are the only thing that has been read. -/
def LeadsAlone (r : Reading) : Prop :=
  ∀ rest, r.tokens = .leadingDirs :: rest → rest = []

theorem leadsAlone_plain (read : r.plain c = .ok after) (alone : r.LeadsAlone)
    : after.LeadsAlone := by
  unfold LeadsAlone plain push at *
  split at read
  case h_6 | h_7 => split at read <;> cases read <;> simp
  all_goals
    cases read
    first | exact alone | simp

theorem leadsAlone_push (token : Token) (other : token ≠ .leadingDirs)
    : (r.push token).LeadsAlone := by
  simp [LeadsAlone, push, other]

theorem leadsAlone_replaceLast (alone : r.LeadsAlone) {token : Token}
    (other : token ≠ .leadingDirs)
    : (r.replaceLast token).LeadsAlone := by
  unfold replaceLast
  split
  case h_1 | h_2 => exact alone
  case h_3 | h_4 => simp [LeadsAlone, other]

theorem leadsAlone_afterStars {before : Option Char} (read : r.afterStars before c = .ok after)
    (alone : r.LeadsAlone)
    : after.LeadsAlone := by
  have stars : r.pushStars.LeadsAlone := leadsAlone_push _ (by simp)
  unfold afterStars at read
  split at read
  case isTrue empty =>
    split at read
    case isTrue =>
      cases read
      simp [LeadsAlone, push, List.isEmpty_iff.mp empty]
    case isFalse => exact leadsAlone_plain read stars
  case isFalse =>
    split at read
    · exact leadsAlone_plain read stars
    · split at read
      · exact leadsAlone_plain read (leadsAlone_replaceLast alone (by simp))
      · split at read
        · cases read
          exact leadsAlone_replaceLast alone (by simp)
        · exact leadsAlone_plain read stars

theorem leadsAlone_classChar {cls : OpenClass} (read : r.classChar cls c = .ok after)
    (alone : r.LeadsAlone)
    : after.LeadsAlone := by
  unfold classChar at read
  split at read
  case h_1 =>
    cases read
    exact alone
  case h_2 =>
    split_ifs at read <;> cases read
    · exact leadsAlone_push _ nofun
    · exact leadsAlone_push _ nofun
    · exact alone
    · exact alone
    · exact alone

/-- No character gives the leading folders company, by the modes of the reader. -/
theorem leadsAlone_next (read : r.next c = .ok after) (alone : r.LeadsAlone)
    : after.LeadsAlone := by
  obtain ⟨further, step, rfl⟩ := exists_step read
  change further.LeadsAlone
  unfold Reading.step at step
  split at step
  case h_1 => exact leadsAlone_plain step alone
  case h_2 =>
    cases step
    exact leadsAlone_push _ nofun
  case h_3 =>
    split at step
    · cases step
      exact alone
    · exact leadsAlone_plain step (leadsAlone_push .star nofun)
  case h_4 => exact leadsAlone_afterStars step alone
  case h_5 =>
    split at step
    · cases step
      exact alone
    · exact leadsAlone_classChar step alone
  case h_6 => exact leadsAlone_classChar step alone

/-- Nothing stands in front of folders at the start, by induction on the text from its end. -/
theorem leadsAlone (read : s.foldlM next start = .ok r) : r.LeadsAlone := by
  induction s using List.reverseRecOn generalizing r with
  | nil =>
      cases read
      exact nofun
  | append_singleton s c ih =>
      obtain ⟨before, front, next⟩ := exists_next read
      exact leadsAlone_next next (ih front)

end Reading

-----------------------------------------------------------------------------------------
-- A pattern and what is below it
-----------------------------------------------------------------------------------------

open Reading (IsShort LeadsAlone)

variable {s : List Char} {glob whole : Glob}

theorem parse_eq_ok_iff
    : parse s = .ok glob ↔ ∃ r, s.foldlM Reading.next .start = .ok r ∧ r.finish = .ok glob := by
  rw [parse]
  cases read : s.foldlM Reading.next .start with
  | error fault => simp [bind, Except.bind]
  | ok r => simp [bind, Except.bind]

/-- Any number of leading folders is read as one token. -/
theorem parse_anyFolders (count : Nat)
    : parse (anyFolders (count + 1)) = .ok ⟨[.leadingDirs]⟩ :=
  parse_eq_ok_iff.mpr ⟨_, Reading.foldlM_anyFolders count, rfl⟩

theorem eq_of_close {r : Reading} (close : r.close = .ok glob)
    : r.groups = [] ∧ glob = ⟨r.tokens.reverse⟩ := by
  obtain ⟨mode, previous, tokens, groups⟩ := r
  cases groups <;> cases close
  exact ⟨rfl, rfl⟩

/-- What is read up to the slash decides what the stars behind it make of it. -/
theorem eq_of_parse_below {r : Reading} {tokens : List Token}
    (read : s.foldlM Reading.next .start = .ok r) (below : parse (s ++ "/**".toList) = .ok whole)
    (slash : r.next '/' = .ok ⟨.plain, some '/', tokens, []⟩) (nonempty : tokens ≠ [])
    : whole = ⟨(Reading.replaceLast ⟨.twoStars (some '/'), some '*', tokens, []⟩
        .trailingDirs).tokens.reverse⟩ := by
  have stars : ['*', '*'].foldlM Reading.next ⟨.plain, some '/', tokens, []⟩
      = .ok ⟨.twoStars (some '/'), some '*', tokens, []⟩ := rfl
  have all : (s ++ "/**".toList).foldlM Reading.next .start
      = .ok ⟨.twoStars (some '/'), some '*', tokens, []⟩ := by
    rw [List.foldlM_append, read]
    change ['/', '*', '*'].foldlM Reading.next r = _
    rw [List.foldlM_cons, slash]
    exact stars
  have empty : tokens.isEmpty = false := by simp [nonempty]
  refine Except.ok.inj (below.symm.trans (parse_eq_ok_iff.mpr ⟨_, all, ?_⟩))
  simp [Reading.finish, Reading.lastStars, Reading.close, Reading.mayStartDirs, empty,
    Reading.replaceLast_groups]

/-- The tokens of a pattern with `/**` behind are those of the pattern and one more, unless they
mean what is below folders already.
-/
inductive Below (s : List Char) : (glob whole : Glob) → Prop
  | deeper (tokens) (folders : tokens = [.leadingDirs] → ∃ count, s = anyFolders (count + 1))
    : Below s ⟨tokens⟩ ⟨tokens ++ [.trailingDirs]⟩
  | inside (tokens) : Below s ⟨tokens ++ [.trailingDirs]⟩ ⟨tokens ++ [.trailingDirs]⟩
  | everything : Below s ⟨[.leadingDirs]⟩ ⟨[.leadingDirs]⟩

theorem Below.of_reverse (tokens : List Token)
    (folders : tokens = [.leadingDirs] → ∃ count, s = anyFolders (count + 1))
    : Below s ⟨tokens.reverse⟩ ⟨(.trailingDirs :: tokens).reverse⟩ := by
  rw [List.reverse_cons]
  exact .deeper _ fun lead => folders (by simpa using lead)

theorem Below.inside_reverse (tokens : List Token)
    : Below s ⟨(.trailingDirs :: tokens).reverse⟩ ⟨(.trailingDirs :: tokens).reverse⟩ := by
  rw [List.reverse_cons]
  exact .inside _

/-- Two stars at the end mean folders behind a slash, and two that match within a name elsewhere. -/
theorem below_of_twoStars {before previous : Option Char} {token : Token} {rest : List Token}
    {groups : List OpenGroup}
    (read
      : s.foldlM Reading.next .start = .ok ⟨.twoStars before, previous, token :: rest, groups⟩)
    (finish : Reading.finish ⟨.twoStars before, previous, token :: rest, groups⟩ = .ok glob)
    (below : parse (s ++ "/**".toList) = .ok whole)
    : Below s glob whole := by
  obtain rfl : groups = [] := by
    have none := Reading.close_eq_ok_iff.mp ⟨glob, finish⟩
    rwa [Reading.lastStars_groups, List.length_eq_zero_iff] at none
  by_cases slash : before = some '/'
  · subst slash
    obtain ⟨-, rfl⟩ := eq_of_close finish
    have behind {tokens : List Token} (nonempty : tokens ≠ [])
        (next : Reading.next ⟨.twoStars (some '/'), previous, token :: rest, []⟩ '/'
          = .ok ⟨.plain, some '/', tokens, []⟩) :=
      eq_of_parse_below read below next nonempty
    cases token
    case leadingDirs =>
      obtain rfl := Reading.leadsAlone read rest rfl
      obtain rfl := behind (List.cons_ne_nil .leadingDirs []) rfl
      exact .everything
    case trailingDirs =>
      obtain rfl := behind (List.cons_ne_nil .trailingDirs rest) rfl
      exact .inside_reverse rest
    -- Any other token is the slash that the folders take the place of.
    all_goals
      obtain rfl := behind (List.cons_ne_nil .innerDirs rest) rfl
      exact .inside_reverse rest
  · have close : (Reading.pushStars ⟨.twoStars before, previous, token :: rest, []⟩).close
        = .ok glob := by
      simpa [Reading.finish, Reading.lastStars, Reading.mayStartDirs, slash] using finish
    have next : Reading.next ⟨.twoStars before, previous, token :: rest, []⟩ '/'
        = .ok ⟨.plain, some '/', .literal '/' :: .star :: .star :: token :: rest, []⟩ := by
      simp [Reading.next, Reading.step, Reading.afterStars, Reading.mayStartDirs, slash]
      rfl
    obtain ⟨-, rfl⟩ := eq_of_close close
    obtain rfl := eq_of_parse_below read below next (by simp)
    exact .of_reverse (.star :: .star :: token :: rest) (by simp)

/-- A pattern with all folders below it is read as the pattern and that token. -/
theorem below_of_parse (folder : parse s = .ok glob) (below : parse (s ++ "/**".toList) = .ok whole)
    : Below s glob whole := by
  obtain ⟨⟨mode, previous, tokens, groups⟩, read, finish⟩ := parse_eq_ok_iff.mp folder
  cases mode with
  | plain =>
      obtain ⟨rfl, rfl⟩ : groups = [] ∧ glob = ⟨tokens.reverse⟩ := eq_of_close finish
      have next : Reading.next ⟨.plain, previous, tokens, []⟩ '/'
          = .ok ⟨.plain, some '/', .literal '/' :: tokens, []⟩ := rfl
      obtain rfl := eq_of_parse_below read below next (by simp)
      refine .of_reverse tokens fun lead => ?_
      obtain ⟨count, rfl, none⟩ := Reading.text_of_short read ⟨rfl, .inr lead⟩ rfl
      cases count with
      | zero => exact absurd (lead.symm.trans (none.mpr rfl)) (by simp)
      | succ count => exact ⟨count, by simp⟩
  | oneStar before =>
      obtain ⟨rfl, rfl⟩ : groups = [] ∧ glob = ⟨(.star :: tokens).reverse⟩ := eq_of_close finish
      have next : Reading.next ⟨.oneStar before, previous, tokens, []⟩ '/'
          = .ok ⟨.plain, some '/', .literal '/' :: .star :: tokens, []⟩ := rfl
      obtain rfl := eq_of_parse_below read below next (by simp)
      exact .of_reverse (.star :: tokens) (by simp)
  | twoStars before =>
      cases tokens with
      | nil =>
          obtain ⟨rfl, rfl⟩ : groups = [] ∧ glob = ⟨[.leadingDirs]⟩ := eq_of_close finish
          have next : Reading.next ⟨.twoStars before, previous, [], []⟩ '/'
              = .ok ⟨.plain, some '/', [.leadingDirs], []⟩ := rfl
          obtain rfl := eq_of_parse_below read below next (by simp)
          exact .everything
      | cons token rest => exact below_of_twoStars read finish below
  | escaped | classStart | inClass cls => cases finish

/-- What a pattern matches is a folder in which the pattern with `/**` behind matches everything,
unless it is nothing but `**/`.
-/
theorem Below.isMatch (below : Below s glob whole) (narrow : ∀ count, s ≠ anyFolders (count + 1))
    {folder inner : String} (matched : glob.isMatch folder = true)
    : whole.isMatch (folder ++ "/" ++ inner) = true := by
  have parts (front behind : String)
      : Text.toBytes (front ++ behind) = Text.toBytes front ++ Text.toBytes behind := by
    simp [Text.toBytes]
  have bytes : Text.toBytes (folder ++ "/" ++ inner)
      = Text.toBytes folder ++ slash :: Text.toBytes inner := by
    have one : Text.toBytes "/" = [slash] := by decide
    rw [parts, parts, one, List.append_assoc, List.singleton_append]
  rw [isMatch_iff] at matched ⊢
  rw [bytes]
  cases below with
  | deeper tokens folders =>
      have several : tokens ≠ [.leadingDirs] := by
        intro lead
        obtain ⟨count, same⟩ := folders lead
        exact narrow count same
      refine ⟨fun _ => by simp [asksForFinalDot, Token.isCharacter], .inr ?_⟩
      exact spells_below_iff.mpr ⟨_, _, rfl, matched.2.resolve_left several⟩
  | inside tokens =>
      have several : tokens ++ [.trailingDirs] ≠ [.leadingDirs] := by
        intro same
        simpa using congrArg List.getLast? same
      obtain ⟨outer, further, same, spelled⟩ :=
        spells_below_iff.mp (matched.2.resolve_left several)
      refine ⟨fun _ => by simp [asksForFinalDot, Token.isCharacter], .inr ?_⟩
      rw [same, List.append_assoc, List.cons_append]
      exact spells_below_iff.mpr ⟨_, _, rfl, spelled⟩
  | everything => exact ⟨fun _ => rfl, .inl rfl⟩

end EarlyBreak.Glob
