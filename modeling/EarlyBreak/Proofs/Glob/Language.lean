import EarlyBreak.Glob.Matcher
import EarlyBreak.Path
import Mathlib.Data.List.Basic
import Mathlib.Data.List.Induction

/-! What patterns spell.  A mark on the tape stands for the bytes in front of it, so moving marks
over a token appends what the token spells, and a path matches if the tokens spell all of it.
-/

namespace EarlyBreak.Glob

open EarlyBreak.Path (slash)

/-- Some bytes, and others behind them. -/
def Chained (first second : List UInt8 → Prop) (s : List UInt8) : Prop :=
  ∃ front behind, s = front ++ behind ∧ first front ∧ second behind

/-- Folders, each with its slash, or none. -/
def SpellsFolders (s : List UInt8) : Prop := s = [] ∨ ∃ front, s = front ++ [slash]

mutual

/-- The bytes that a token stands for. -/
def Token.Spells : Token → List UInt8 → Prop
  | .literal c, s => s = Text.toBytes c.toString
  | .any, s => ∃ b, noSlash b = true ∧ s = [b]
  | .star, s => ∀ b ∈ s, noSlash b = true
  | .leadingDirs, s => SpellsFolders s
  | .trailingDirs, s => ∃ below, s = slash :: below
  | .innerDirs, s => ∃ folders, s = slash :: folders ∧ SpellsFolders folders
  | .oneOf negated ranges, s => ∃ b, (ranges.any (inRange b) != negated) = true ∧ s = [b]
  | .alternatives branches, s => if areVoid branches then s = [] else AnySpells branches s

/-- The bytes that tokens stand for one after the other. -/
def Spells : List Token → List UInt8 → Prop
  | [], s => s = []
  | token :: rest, s => Chained token.Spells (Spells rest) s

/-- The bytes that one of the branches stands for.  Void branches do not count. -/
def AnySpells : List (List Token) → List UInt8 → Prop
  | [], _ => False
  | branch :: rest, s => isVoid branch = false ∧ Spells branch s ∨ AnySpells rest s

end

namespace Tape

/-- The bytes on a tape. -/
def bytes : Tape → List UInt8
  | done _ => []
  | cell _ byte rest => byte :: rest.bytes

/-- The place between two parts of the bytes is marked. -/
def Marked : Tape → List UInt8 → List UInt8 → Prop
  | done mark, front, behind => mark = true ∧ front = [] ∧ behind = []
  | cell mark byte rest, [], behind => mark = true ∧ behind = byte :: rest.bytes
  | cell _ byte rest, first :: front, behind => first = byte ∧ rest.Marked front behind

variable {tape other : Tape} {front behind s : List UInt8} {accept : UInt8 → Bool} {mark : Bool}
  {b : UInt8}

/-- A tape reaches the end exactly if a mark stands behind all bytes. -/
theorem reachesEnd_iff : tape.reachesEnd = true ↔ tape.Marked tape.bytes [] := by
  induction tape with
  | done mark => simp [reachesEnd, bytes, Marked]
  | cell mark byte rest ih => simp [reachesEnd, bytes, Marked, ih]

@[simp] theorem bytes_blank (s : List UInt8) : (blank s).bytes = s := by
  induction s with
  | nil => rfl
  | cons byte rest ih => rw [blank, bytes, ih]

@[simp] theorem bytes_start (s : List UInt8) : (start s).bytes = s := by
  cases s with
  | nil => rfl
  | cons byte rest => rw [start, bytes, bytes_blank]

theorem not_marked_blank : ¬ (blank s).Marked front behind := by
  induction s generalizing front with
  | nil => simp [blank, Marked]
  | cons byte rest ih => cases front <;> simp [blank, Marked, ih]

theorem marked_start_iff : (start s).Marked front behind ↔ front = [] ∧ behind = s := by
  cases s with
  | nil => simp [start, Marked]
  | cons byte rest => cases front <;> simp [start, Marked, not_marked_blank]

@[simp] theorem bytes_shift (accept : UInt8 → Bool) (mark : Bool) (tape : Tape)
    : (tape.shift accept mark).bytes = tape.bytes := by
  induction tape generalizing mark with
  | done => rfl
  | cell here byte rest ih => rw [shift, bytes, bytes, ih]

@[simp] theorem bytes_spreadFrom (accept : UInt8 → Bool) (mark : Bool) (tape : Tape)
    : (tape.spreadFrom accept mark).bytes = tape.bytes := by
  induction tape generalizing mark with
  | done => rfl
  | cell here byte rest ih => rw [spreadFrom, bytes, bytes, ih]

theorem marked_shift_nil_iff
    : (tape.shift accept mark).Marked [] behind ↔ mark = true ∧ behind = tape.bytes := by
  cases tape <;> simp [shift, Marked, bytes]

/-- A shifted mark stands behind a byte that is accepted, if it stood in front of it. -/
theorem marked_shift_concat_iff
    : (tape.shift accept mark).Marked (front ++ [b]) behind
      ↔ accept b = true ∧ tape.Marked front (b :: behind) := by
  induction tape generalizing mark front with
  | done here => simp [shift, Marked]
  | cell here byte rest ih =>
      cases front with
      | nil =>
          simp only [List.nil_append, shift, Marked, marked_shift_nil_iff]
          grind
      | cons first front =>
          simp only [List.cons_append, shift, Marked, ih]
          grind

theorem marked_spreadFrom_nil_iff
    : (tape.spreadFrom accept mark).Marked [] behind
      ↔ mark = true ∧ behind = tape.bytes ∨ tape.Marked [] behind := by
  cases tape <;> simp [spreadFrom, Marked, bytes] <;> grind

/-- A mark that is spread stays and goes on over accepted bytes. -/
theorem marked_spreadFrom_concat_iff
    : (tape.spreadFrom accept mark).Marked (front ++ [b]) behind
      ↔ tape.Marked (front ++ [b]) behind
        ∨ accept b = true ∧ (tape.spreadFrom accept mark).Marked front (b :: behind) := by
  induction tape generalizing mark front with
  | done here => simp [spreadFrom, Marked]
  | cell here byte rest ih =>
      cases front with
      | nil =>
          simp only [List.nil_append, spreadFrom, Marked, marked_spreadFrom_nil_iff,
            bytes_spreadFrom]
          grind
      | cons first front =>
          simp only [List.cons_append, spreadFrom, Marked, ih]
          grind

theorem bytes_merge (same : tape.bytes = other.bytes) : (tape.merge other).bytes = tape.bytes := by
  induction tape generalizing other with
  | done => cases other <;> simp_all [merge, bytes]
  | cell mark byte rest ih => cases other <;> simp_all [merge, bytes]

theorem marked_merge_iff (same : tape.bytes = other.bytes)
    : (tape.merge other).Marked front behind
      ↔ tape.Marked front behind ∨ other.Marked front behind := by
  induction tape generalizing other front with
  | done mark =>
      cases other with
      | done also => simp [merge, Marked, or_and_right]
      | cell => cases same
  | cell mark byte rest ih =>
      cases other with
      | done => cases same
      | cell also twin more =>
          obtain ⟨rfl, alike⟩ := List.cons.inj same
          cases front with
          | nil => simp [merge, Marked, bytes_merge alike, alike, or_and_right]
          | cons first front => simp [merge, Marked, ih alike, and_or_left]

end Tape

/-- Moving marks appends spelled bytes to what is in front of them. -/
structure Moves (move : Tape → Tape) (spelled : List UInt8 → Prop) : Prop where
  bytes (tape : Tape) : (move tape).bytes = tape.bytes
  marked (tape : Tape) (front behind : List UInt8)
    : (move tape).Marked front behind
      ↔ ∃ before inner,
          front = before ++ inner ∧ spelled inner ∧ tape.Marked before (inner ++ behind)

namespace Moves

variable {move also : Tape → Tape} {spelled other : List UInt8 → Prop}

theorem congr (moves : Moves move spelled) (same : ∀ s, spelled s ↔ other s)
    : Moves move other := by
  obtain rfl : spelled = other := funext fun s => propext (same s)
  exact moves

theorem stay : Moves id (· = []) := ⟨fun _ => rfl, by simp⟩

theorem step (accept : UInt8 → Bool)
    : Moves (Tape.step accept) fun s => ∃ b, accept b = true ∧ s = [b] where
  bytes tape := Tape.bytes_shift accept false tape
  marked tape front behind := by
    rw [Tape.step]
    rcases List.eq_nil_or_concat' front with rfl | ⟨before, b, rfl⟩
    · simp [Tape.marked_shift_nil_iff]
    · rw [Tape.marked_shift_concat_iff]
      constructor
      · rintro ⟨accepted, marked⟩
        exact ⟨before, [b], rfl, ⟨b, accepted, rfl⟩, marked⟩
      · rintro ⟨_, _, same, ⟨c, accepted, rfl⟩, marked⟩
        obtain ⟨rfl, rfl⟩ := List.append_singleton_inj.mp same
        exact ⟨accepted, marked⟩

/-- A spread mark comes over as many accepted bytes as it may, by induction on what it passed. -/
theorem spread (accept : UInt8 → Bool)
    : Moves (Tape.spread accept) fun s => ∀ b ∈ s, accept b = true where
  bytes tape := Tape.bytes_spreadFrom accept false tape
  marked tape front behind := by
    rw [Tape.spread]
    induction front using List.reverseRecOn generalizing behind with
    | nil => simp [Tape.marked_spreadFrom_nil_iff]
    | append_singleton front b ih =>
        rw [Tape.marked_spreadFrom_concat_iff, ih]
        constructor
        · rintro (marked | ⟨accepted, before, inner, rfl, all, marked⟩)
          · exact ⟨front ++ [b], [], by simp, nofun, marked⟩
          · refine ⟨before, inner ++ [b], by simp, ?_, by simpa using marked⟩
            simpa [accepted, or_imp, forall_and] using all
        · rintro ⟨before, inner, same, all, marked⟩
          rcases List.eq_nil_or_concat' inner with rfl | ⟨inner, c, rfl⟩
          · rw [List.append_nil] at same
            exact .inl (same ▸ marked)
          · rw [← List.append_assoc] at same
            obtain ⟨rfl, rfl⟩ := List.append_singleton_inj.mp same
            refine .inr ⟨all b (by simp), before, inner, rfl, ?_, by simpa using marked⟩
            exact fun c member => all c (List.mem_append_left _ member)

theorem comp (moves : Moves move spelled) (then' : Moves also other)
    : Moves (fun tape => also (move tape)) (Chained spelled other) where
  bytes tape := by rw [then'.bytes, moves.bytes]
  marked tape front behind := by
    simp only [then'.marked, moves.marked]
    constructor
    · rintro ⟨_, last, rfl, tail, before, first, rfl, head, marked⟩
      refine ⟨before, first ++ last, by simp, ⟨first, last, rfl, head, tail⟩, ?_⟩
      rwa [List.append_assoc]
    · rintro ⟨before, _, rfl, ⟨first, last, rfl, head, tail⟩, marked⟩
      rw [List.append_assoc] at marked
      exact ⟨before ++ first, last, by simp, tail, before, first, rfl, head, marked⟩

theorem merge (moves : Moves move spelled) (or' : Moves also other)
    : Moves (fun tape => (move tape).merge (also tape)) fun s => spelled s ∨ other s where
  bytes tape := by rw [Tape.bytes_merge (by rw [moves.bytes, or'.bytes]), moves.bytes]
  marked tape front behind := by
    rw [Tape.marked_merge_iff (by rw [moves.bytes, or'.bytes]), moves.marked, or'.marked]
    simp only [← exists_or, ← and_or_left, or_and_right]

end Moves

theorem moves_literal (s : List UInt8)
    : Moves (fun tape => s.foldl (fun tape b => tape.step (· == b)) tape) (· = s) := by
  induction s with
  | nil => exact Moves.stay
  | cons b rest ih =>
      refine ((Moves.step (· == b)).comp ih).congr fun s => ?_
      simp [Chained]

theorem moves_slash : Moves (Tape.step isSlash) (· = [slash]) := by
  refine (Moves.step isSlash).congr fun s => ?_
  simp [isSlash, slash]

theorem moves_anything : Moves (Tape.spread anyByte) fun _ => True :=
  (Moves.spread anyByte).congr fun s => by simp [anyByte]

/-- Folders are moved over by nothing, or by anything up to a slash. -/
theorem moves_folders
    : Moves (fun tape => tape.merge ((tape.spread anyByte).step isSlash)) SpellsFolders := by
  refine (Moves.stay.merge (moves_anything.comp moves_slash)).congr fun s => ?_
  simp [SpellsFolders, Chained]

mutual

/-- Advancing over a token appends what it spells. -/
theorem Token.moves : (token : Token) → Moves (fun tape => token.advance tape) token.Spells
  | .literal c => by
      simpa only [Token.advance, Token.Spells] using moves_literal (Text.toBytes c.toString)
  | .any => by
      simpa only [Token.advance, Token.Spells] using Moves.step noSlash
  | .star => by
      simpa only [Token.advance, Token.Spells] using Moves.spread noSlash
  | .leadingDirs => by
      simpa only [Token.advance, Token.Spells] using moves_folders
  | .trailingDirs => by
      simp only [Token.advance, Token.Spells]
      refine (moves_slash.comp moves_anything).congr fun s => ?_
      simp [Chained]
  | .innerDirs => by
      simp only [Token.advance, Token.Spells]
      refine (moves_slash.comp moves_folders).congr fun s => ?_
      simp [Chained]
  | .oneOf negated ranges => by
      simpa only [Token.advance, Token.Spells] using
        Moves.step fun b => ranges.any (inRange b) != negated
  | .alternatives branches => by
      simp only [Token.advance, Token.Spells]
      split
      · exact Moves.stay
      · exact anyMoves branches

/-- Advancing over tokens appends what they spell one after the other. -/
theorem moves : (tokens : List Token) → Moves (fun tape => advance tape tokens) (Spells tokens)
  | [] => by
      simp only [advance, Spells]
      exact Moves.stay
  | token :: rest => by
      simp only [advance, Spells]
      exact token.moves.comp (moves rest)

/-- Advancing over branches appends what one of them spells. -/
theorem anyMoves : (branches : List (List Token))
    → Moves (fun tape => advanceAny tape branches) (AnySpells branches)
  | [] => by
      simp only [advanceAny, AnySpells]
      exact (Moves.step fun _ => false).congr (by simp)
  | branch :: rest => by
      simp only [advanceAny, AnySpells]
      cases void : isVoid branch with
      | true => simpa using anyMoves rest
      | false => simpa using (moves branch).merge (anyMoves rest)

end

/-- Tokens take marks to the end of a text exactly if they spell it. -/
theorem advance_reachesEnd_iff {tokens : List Token} {s : List UInt8}
    : (advance (.start s) tokens).reachesEnd = true ↔ Spells tokens s := by
  have bytes := (moves tokens).bytes (.start s)
  have marked := (moves tokens).marked (.start s) s []
  simp only [Tape.bytes_start] at bytes
  rw [Tape.reachesEnd_iff, bytes, marked]
  simp [Tape.marked_start_iff]

/-- A path matches exactly if the tokens of the pattern spell it, or are a single `**`.  A file name
with a dot at its end is not `..`.
-/
theorem isMatch_iff {glob : Glob} {path : String}
    : glob.isMatch path = true
      ↔ (endsAbove path = true → asksForFinalDot glob.tokens = false)
        ∧ (glob.tokens = [.leadingDirs] ∨ Spells glob.tokens (Text.toBytes path)) := by
  rw [isMatch]
  split
  case isTrue barred =>
    obtain ⟨above, asks⟩ := Bool.and_eq_true_iff.mp barred
    simp [above, asks]
  case isFalse allowed =>
    have free : endsAbove path = true → asksForFinalDot glob.tokens = false := by
      intro above
      simpa [above] using allowed
    rw [and_iff_right free]
    split
    case h_1 single => simp [single]
    case h_2 several =>
      rw [advance_reachesEnd_iff]
      exact (or_iff_right several).symm

/-- What tokens spell is cut where the tokens are. -/
theorem spells_append {front back : List Token} {s : List UInt8}
    : Spells (front ++ back) s ↔ Chained (Spells front) (Spells back) s := by
  induction front generalizing s with
  | nil => simp [Spells, Chained]
  | cons token rest ih =>
      simp only [List.cons_append, Spells, Chained, ih]
      constructor
      · rintro ⟨first, _, rfl, head, second, third, rfl, middle, last⟩
        exact ⟨first ++ second, third, by simp, ⟨first, second, rfl, head, middle⟩, last⟩
      · rintro ⟨_, third, rfl, ⟨first, second, rfl, head, middle⟩, last⟩
        exact ⟨first, second ++ third, by simp, head, second, third, rfl, middle, last⟩

theorem spells_concat {tokens : List Token} {token : Token} {s : List UInt8}
    : Spells (tokens ++ [token]) s ↔ Chained (Spells tokens) token.Spells s := by
  have single : Spells [token] = token.Spells := by
    funext s
    simp [Spells, Chained]
  rw [spells_append, single]

/-- What is below the folders that tokens spell. -/
theorem spells_below_iff {tokens : List Token} {s : List UInt8}
    : Spells (tokens ++ [.trailingDirs]) s
      ↔ ∃ folder inner, s = folder ++ slash :: inner ∧ Spells tokens folder := by
  simp only [spells_concat, Chained, Token.Spells]
  constructor
  · rintro ⟨folder, _, rfl, spelled, inner, rfl⟩
    exact ⟨folder, inner, rfl, spelled⟩
  · rintro ⟨folder, inner, rfl, spelled⟩
    exact ⟨folder, slash :: inner, rfl, spelled, inner, rfl⟩

end EarlyBreak.Glob
