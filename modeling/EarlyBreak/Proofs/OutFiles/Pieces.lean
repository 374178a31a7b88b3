import EarlyBreak.OutFiles.Relative
import EarlyBreak.Proofs.FileTree.Steps
import EarlyBreak.Proofs.Text.Cuts

/-! What is left of a pattern below a root: some of its pieces between slashes, in their order.
Those in front are written in the root, or stand for nothing, and so do those behind.
-/

namespace EarlyBreak

-----------------------------------------------------------------------------------------
-- Characters and their bytes
-----------------------------------------------------------------------------------------

namespace Text

open EarlyBreak.Path (slash)

/-- The bytes of characters. -/
def encoded (s : List Char) : List UInt8 := toBytes (String.ofList s)

variable {s other : List Char} {pieces : List (List Char)}

theorem encoded_toList (s : String) : encoded s.toList = toBytes s := by
  rw [encoded, String.ofList_toList]

theorem encoded_eq (s : List Char) : encoded s = s.flatMap String.utf8EncodeChar := by
  simp [encoded, toBytes, List.utf8Encode]

theorem encoded_append (s other : List Char)
    : encoded (s ++ other) = encoded s ++ encoded other := by
  rw [encoded_eq, encoded_eq, encoded_eq, List.flatMap_append]

theorem encoded_injective (same : encoded s = encoded other) : s = other := by
  have texts := congrArg ofBytes? same
  rw [encoded, encoded, ofBytes?_toBytes, ofBytes?_toBytes, Option.some_inj] at texts
  exact String.ofList_injective texts

theorem length_encoded_eq_zero_iff : (encoded s).length = 0 ↔ s = [] := by
  rw [List.length_eq_zero_iff]
  constructor
  · intro empty
    have nothing : encoded [] = [] := by decide
    exact encoded_injective (empty.trans nothing.symm)
  · rintro rfl
    decide

theorem ofBytesLossy_encoded (s : List Char) : ofBytesLossy (encoded s) = String.ofList s :=
  ofBytesLossy_toBytes _

theorem encoded_cons_slash (s : List Char) : encoded ('/' :: s) = slash :: encoded s := by
  have one : encoded ['/'] = [slash] := by decide
  rw [← List.singleton_append, encoded_append, one, List.singleton_append]

theorem map_of_not_mem {α : Type} [DecidableEq α] {old new : α} {text : List α}
    (absent : old ∉ text)
    : text.map (fun c => if c = old then new else c) = text := by
  refine (List.map_congr_left fun c member => ?_).trans (List.map_id text)
  exact if_neg fun same : c = old => absent (same ▸ member)

/-- Only an ASCII character is written with its byte. -/
theorem eq_of_mem_utf8EncodeChar {c ascii : Char} (small : ascii.toNat < 128)
    (member : UInt8.ofNat ascii.toNat ∈ String.utf8EncodeChar c)
    : c = ascii := by
  have number {n : Nat} (same : UInt8.ofNat ascii.toNat = UInt8.ofNat n)
      : n % 256 = ascii.toNat := by
    have numbers := congrArg UInt8.toNat same
    simp only [UInt8.toNat_ofNat'] at numbers
    omega
  unfold String.utf8EncodeChar at member
  simp only at member
  split at member
  case isTrue short =>
    have value : c.val.toNat = ascii.val.toNat := by
      have one := number (List.mem_singleton.mp member)
      have code : ascii.val.toNat = ascii.toNat := rfl
      omega
    exact Char.ext (UInt32.toNat_inj.mp value)
  case isFalse =>
    -- All bytes of longer characters are greater.
    exfalso
    split_ifs at member <;> simp only [List.mem_cons, List.not_mem_nil, or_false] at member
    · rcases member with same | same <;> have byte := number same <;> omega
    · rcases member with same | same | same <;> have byte := number same <;> omega
    · rcases member with same | same | same | same <;> have byte := number same <;> omega

theorem utf8EncodeChar_of_ascii {c : Char} (small : c.toNat < 128)
    : String.utf8EncodeChar c = [UInt8.ofNat c.toNat] := by
  have short : c.toNat ≤ 127 := Nat.le_of_lt_succ small
  simp [String.utf8EncodeChar, short]

/-- Only a slash is written with the byte of one. -/
theorem eq_slash_of_mem {c : Char} (member : slash ∈ String.utf8EncodeChar c) : c = '/' :=
  eq_of_mem_utf8EncodeChar (by decide) member

/-- Only a text that starts with a slash is written with the byte of one in front. -/
theorem eq_slash_of_head? (starts : (encoded s).head? = some slash) : ∃ rest, s = '/' :: rest := by
  cases s with
  | nil => cases starts
  | cons c rest =>
      rw [encoded_eq, List.flatMap_cons] at starts
      cases bytes : String.utf8EncodeChar c with
      | nil => exact absurd bytes String.utf8EncodeChar_ne_nil
      | cons first others =>
          rw [bytes] at starts
          have member : slash ∈ String.utf8EncodeChar c := by
            rw [bytes, ← Option.some.inj starts]
            exact List.mem_cons_self
          exact ⟨rest, by rw [eq_slash_of_mem member]⟩

theorem slash_not_mem_encoded (none : '/' ∉ s) : slash ∉ encoded s := by
  rw [encoded_eq, List.mem_flatMap]
  rintro ⟨c, member, written⟩
  exact none (eq_slash_of_mem written ▸ member)

/-- Where the bytes of a text have that of an ASCII character, the text has the character, by
induction along the text.
-/
theorem encoded_eq_append_cons {ascii : Char} (small : ascii.toNat < 128) {front rest : List UInt8}
    (cut : encoded s = front ++ UInt8.ofNat ascii.toNat :: rest)
    : ∃ before behind,
        s = before ++ ascii :: behind ∧ encoded before = front ∧ encoded behind = rest := by
  induction s generalizing front with
  | nil => simp [encoded_eq] at cut
  | cons c s ih =>
      have whole : encoded (c :: s) = String.utf8EncodeChar c ++ encoded s := by
        rw [encoded_eq, encoded_eq, List.flatMap_cons]
      rw [whole] at cut
      rcases List.append_eq_append_iff.mp cut with ⟨more, rfl, later⟩ | ⟨more, here, later⟩
      · obtain ⟨before, behind, rfl, rfl, rfl⟩ := ih later
        exact ⟨c :: before, behind, rfl, by rw [encoded_eq, encoded_eq, List.flatMap_cons], rfl⟩
      · cases more with
        | nil =>
            -- The character stands right behind this one.
            have later : encoded s = [] ++ UInt8.ofNat ascii.toNat :: rest := later.symm
            obtain ⟨before, behind, rfl, empty, rfl⟩ := ih later
            refine ⟨c :: before, behind, rfl, ?_, rfl⟩
            rw [List.append_nil] at here
            rw [encoded_eq, List.flatMap_cons, ← encoded_eq, empty, here, List.append_nil]
        | cons byte more =>
            obtain ⟨rfl, rfl⟩ := List.cons.inj later
            have same : c = ascii := by
              refine eq_of_mem_utf8EncodeChar small ?_
              rw [here]
              exact List.mem_append_right front List.mem_cons_self
            subst same
            rw [utf8EncodeChar_of_ascii small] at here
            obtain ⟨rfl, rfl⟩ : front = [] ∧ more = [] := by
              cases front with
              | nil => exact ⟨rfl, by simpa using here.symm⟩
              | cons _ front => simp at here
            exact ⟨[], s, rfl, rfl, rfl⟩

/-- Pieces with slashes between them are written with the bytes of slashes between, by induction
along the pieces.
-/
theorem encoded_intercalate (pieces : List (List Char))
    : encoded (['/'].intercalate pieces) = [slash].intercalate (pieces.map encoded) := by
  induction pieces with
  | nil => rfl
  | cons first rest ih =>
      cases rest with
      | nil => simp
      | cons second rest =>
          rw [List.map_cons, List.map_cons, List.intercalate_cons_cons, List.intercalate_cons_cons,
            List.append_assoc, List.append_assoc, encoded_append, List.singleton_append,
            encoded_cons_slash, ih]
          rfl

/-- The pieces of a text's bytes are the bytes of its pieces. -/
theorem splitOn_encoded (s : List Char)
    : (encoded s).splitOn slash = (s.splitOn '/').map encoded := by
  have whole := encoded_intercalate (s.splitOn '/')
  rw [List.intercalate_splitOn] at whole
  rw [whole, List.splitOn_intercalate]
  · rintro _ member
    obtain ⟨piece, among, rfl⟩ := List.mem_map.mp member
    exact slash_not_mem_encoded (Path.not_mem_of_mem_splitOn among)
  · exact fun none => List.splitOn_ne_nil '/' s (List.map_eq_nil_iff.mp none)

end Text

-----------------------------------------------------------------------------------------
-- Pieces in front and behind
-----------------------------------------------------------------------------------------

namespace Path

variable {piece : List UInt8}

theorem ofPiece?_of_isIdle (idle : isIdle piece = true) : Component.ofPiece? piece = none := by
  have nothing : piece = [] ∨ piece = dotName := by simpa [isIdle] using idle
  rw [Component.ofPiece?, if_pos nothing]

/-- A piece that is not idle stands for the component that it writes. -/
theorem ofPiece?_of_not_isIdle (busy : isIdle piece = false)
    : ∃ component, Component.ofPiece? piece = some component ∧ component.bytes = piece := by
  have something : ¬ (piece = [] ∨ piece = dotName) := by simpa [isIdle] using busy
  rw [Component.ofPiece?, if_neg something]
  split
  case isTrue parent => exact ⟨.parent, rfl, parent.symm⟩
  case isFalse => exact ⟨.name piece, rfl, rfl⟩

/-- The pieces that are dropped in front are idle or stand for the first components, by induction
along the pieces.
-/
theorem dropComponents_split (count : Nat) (pieces : List (List UInt8))
    : ∃ front,
        pieces = front ++ dropComponents count pieces
        ∧ ∀ piece ∈ front,
          isIdle piece = true
          ∨ ∃ component ∈ (pieces.filterMap Component.ofPiece?).take count,
            component.bytes = piece := by
  induction pieces generalizing count with
  | nil => exact ⟨[], rfl, nofun⟩
  | cons first rest ih =>
      cases idle : isIdle first with
      | true =>
          obtain ⟨front, split, written⟩ := ih count
          have dropped : dropComponents count (first :: rest) = dropComponents count rest := by
            cases count <;> exact if_pos idle
          refine ⟨first :: front, ?_, ?_⟩
          · rw [dropped, List.cons_append, ← split]
          · rw [List.filterMap_cons_none (ofPiece?_of_isIdle idle)]
            exact List.forall_mem_cons.mpr ⟨.inl idle, written⟩
      | false =>
          have busy : ¬ isIdle first = true := by simp [idle]
          cases count with
          | zero => exact ⟨[], by rw [dropComponents, if_neg busy]; rfl, nofun⟩
          | succ count =>
              obtain ⟨component, stands, bytes⟩ := ofPiece?_of_not_isIdle idle
              obtain ⟨front, split, written⟩ := ih count
              refine ⟨first :: front, ?_, ?_⟩
              · rw [dropComponents, if_neg busy, List.cons_append, ← split]
              · rw [List.filterMap_cons_some stands, List.take_succ_cons]
                refine List.forall_mem_cons.mpr ⟨.inr ⟨component, List.mem_cons_self, bytes⟩, ?_⟩
                intro piece member
                refine (written piece member).imp_right ?_
                rintro ⟨other, among, same⟩
                exact ⟨other, List.mem_cons_of_mem _ among, same⟩

/-- What is dropped at the end is idle. -/
theorem dropIdleEnd_split (pieces : List (List UInt8))
    : ∃ tail, pieces = dropIdleEnd pieces ++ tail ∧ ∀ piece ∈ tail, isIdle piece = true := by
  refine ⟨(pieces.reverse.takeWhile isIdle).reverse, ?_, ?_⟩
  · rw [dropIdleEnd, ← List.reverse_append, List.takeWhile_append_dropWhile, List.reverse_reverse]
  · intro piece member
    exact List.all_eq_true.mp List.all_takeWhile piece (List.mem_reverse.mp member)

end Path

-----------------------------------------------------------------------------------------
-- Patterns below a root
-----------------------------------------------------------------------------------------

namespace OutFiles

open EarlyBreak.Path (slash)

/-- The form in which a text is read, with slashes for backslashes. -/
def slashed (s : List Char) : List Char := s.map fun c => if c = '\\' then '/' else c

theorem slashed_append (s other : List Char) : slashed (s ++ other) = slashed s ++ slashed other :=
  List.map_append

theorem mem_slashed {s : List Char} {c : Char} (member : c ∈ slashed s)
    : c ≠ '\\' ∧ (c ∈ s ∨ c = '/') := by
  obtain ⟨other, among, rfl⟩ := List.mem_map.mp member
  split
  case isTrue => exact ⟨by decide, .inr rfl⟩
  case isFalse different => exact ⟨different, .inl among⟩

theorem slashed_eq_self {s : List Char} (none : '\\' ∉ s) : slashed s = s := by
  rw [slashed, Text.map_of_not_mem none]

theorem slashed_slashed (s : List Char) : slashed (slashed s) = slashed s :=
  slashed_eq_self fun member => (mem_slashed member).1 rfl

/-- Pieces behind a slash each. -/
def behindSlashes (pieces : List (List Char)) : List Char := pieces.flatMap ('/' :: ·)

theorem mem_behindSlashes {pieces : List (List Char)} {c : Char} (member : c ∈ behindSlashes pieces)
    : c = '/' ∨ ∃ piece ∈ pieces, c ∈ piece := by
  obtain ⟨piece, among, inside⟩ := List.mem_flatMap.mp member
  exact (List.mem_cons.mp inside).imp_right fun later => ⟨piece, among, later⟩

/-- A piece that stands for no component. -/
def IsIdle (piece : List Char) : Prop := piece = [] ∨ piece = ['.']

theorem isIdle_of_encoded {piece : List Char} (idle : Path.isIdle (Text.encoded piece) = true)
    : IsIdle piece := by
  have nothing : Text.encoded piece = Text.encoded []
      ∨ Text.encoded piece = Text.encoded ['.'] := by
    have bytes : Text.encoded [] = [] ∧ Text.encoded ['.'] = Path.dotName := by decide
    rw [bytes.1, bytes.2]
    simpa [Path.isIdle] using idle
  exact nothing.imp Text.encoded_injective Text.encoded_injective

theorem cons_intercalate {pieces : List (List Char)} (some : pieces ≠ [])
    : '/' :: ['/'].intercalate pieces = behindSlashes pieces := by
  cases pieces with
  | nil => exact absurd rfl some
  | cons first rest =>
      rw [Text.intercalate_cons]
      rfl

/-- What is written after the first components of a path: the pieces in front stand for them or are
idle, and those behind are idle.
-/
theorem textAfter_split {p : Path} {pieces : List (List Char)}
    (split : p.bytes.splitOn slash = ([] :: pieces).map Text.encoded) (count : Nat)
    : ∃ front middle tail,
        pieces = front ++ middle ++ tail
        ∧ (p.textAfter count = Text.encoded (['/'].intercalate middle)
          ∨ p.textAfter count = Text.encoded ('/' :: ['/'].intercalate middle))
        ∧ (∀ piece ∈ front,
          IsIdle piece
          ∨ ∃ component ∈
              ((pieces.map Text.encoded).filterMap Path.Component.ofPiece?).take (count - 1),
            component.bytes = Text.encoded piece)
        ∧ ∀ piece ∈ tail, IsIdle piece := by
  have idleEnd (left : List (List Char))
      : ∃ middle tail,
          left = middle ++ tail
          ∧ middle.map Text.encoded = Path.dropIdleEnd (left.map Text.encoded)
          ∧ ∀ piece ∈ tail, IsIdle piece := by
    obtain ⟨_, parts, idle⟩ := Path.dropIdleEnd_split (left.map Text.encoded)
    obtain ⟨middle, tail, same, kept, rfl⟩ := List.map_eq_append_iff.mp parts
    exact ⟨middle, tail, same, kept,
      fun piece member => isIdle_of_encoded (idle _ (List.mem_map_of_mem member))⟩
  cases count with
  | zero =>
      obtain ⟨middle, tail, same, kept, idle⟩ := idleEnd pieces
      refine ⟨[], middle, tail, same, .inr ?_, nofun, idle⟩
      simp only [Path.textAfter, split, List.map_cons, List.tail_cons]
      rw [Text.encoded_cons_slash, Text.encoded_intercalate, kept]
  | succ count =>
      obtain ⟨_, parts, written⟩ := Path.dropComponents_split count (pieces.map Text.encoded)
      obtain ⟨front, left, same, rfl, dropped⟩ := List.map_eq_append_iff.mp parts
      obtain ⟨middle, tail, rfl, kept, idle⟩ := idleEnd left
      refine ⟨front, middle, tail, ?_, .inl ?_, ?_, idle⟩
      · rw [same, List.append_assoc]
      · simp only [Path.textAfter, split, List.map_cons, List.tail_cons]
        rw [Text.encoded_intercalate, kept, dropped]
      · intro piece member
        exact (written _ (List.mem_map_of_mem member)).imp_left isIdle_of_encoded

/-- What is left of an absolute pattern below a root. -/
structure Rebased (root : Path) (body left : List Char) (front middle tail : List (List Char))
    : Prop where
  whole : body = behindSlashes (front ++ middle ++ tail)
  left
    : left = slashed (['/'].intercalate middle)
      ∨ left = slashed ('/' :: ['/'].intercalate middle)
  front
    : ∀ piece ∈ front,
        IsIdle piece ∨ ∃ component ∈ root.components, component.bytes = Text.encoded piece
  tail : ∀ piece ∈ tail, IsIdle piece

/-- The pieces of the bytes of a pattern whose text begins with a slash. -/
theorem splitOn_ofString {body : String} {rest : List Char} (starts : body.toList = '/' :: rest)
    : (Path.ofString body).bytes.splitOn slash = ([] :: rest.splitOn '/').map Text.encoded := by
  have bytes : (Path.ofString body).bytes = Text.encoded ([] ++ '/' :: rest) := by
    rw [List.nil_append, ← starts, Text.encoded_toList]
    rfl
  rw [bytes, Text.splitOn_encoded, List.splitOn_append_cons_self, List.splitOn_nil]
  rfl

theorem isAbsolute_ofString {body : String} {rest : List Char} (starts : body.toList = '/' :: rest)
    : (Path.ofString body).isAbsolute = true := by
  rw [Path.isAbsolute, Path.ofString, ← Text.encoded_toList, starts, Text.encoded_cons_slash]
  rfl

theorem components_ofString {body : String} {rest : List Char} (starts : body.toList = '/' :: rest)
    : (Path.ofString body).components
      = .root :: ((rest.splitOn '/').map Text.encoded).filterMap Path.Component.ofPiece? := by
  rw [Path.components, splitOn_ofString starts]
  simp only [isAbsolute_ofString starts, if_true, List.map_cons]
  rfl

theorem toList_slashed_lossy (s : List Char)
    : (String.ofList ((Text.ofBytesLossy (Text.encoded s)).toList.map
        fun c => if c = '\\' then '/' else c)).toList = slashed s := by
  rw [Text.ofBytesLossy_encoded, String.toList_ofList, String.toList_ofList, slashed]

/-- A path is below another one only if it goes on from its components. -/
theorem prefix_of_below? {base p : Path} (below : (base.below? p).isSome = true)
    : base.components <+: p.components := by
  rw [Path.below?] at below
  split at below
  case isTrue starts => exact List.isPrefixOf_iff_prefix.mp starts
  case isFalse => cases below

/-- The elements behind the first one, as far as a beginning goes, are in it. -/
theorem mem_of_mem_take {α : Type} {first element : α} {start rest : List α}
    (known : start <+: first :: rest) (among : element ∈ rest.take (start.length - 1))
    : element ∈ start := by
  cases start with
  | nil => simp at among
  | cons head names =>
      have others := (List.cons_prefix_cons.mp known).2
      rw [List.length_cons, Nat.add_sub_cancel, ← List.prefix_iff_eq_take.mp others] at among
      exact List.mem_cons_of_mem _ among

/-- A pattern stays as it is, or it loses pieces in front that are those of the root and idle ones
behind.
-/
theorem relativeBody_split (root : Path) (body : String)
    : relativeBody root body = body
      ∨ ∃ front middle tail,
        Rebased root body.toList (relativeBody root body).toList front middle tail := by
  unfold relativeBody
  simp only
  split
  case isFalse => exact .inl rfl
  case isTrue inside =>
    right
    obtain ⟨absolute, below⟩ := Bool.and_eq_true_iff.mp inside
    -- An absolute text begins with a slash, and its pieces follow.
    obtain ⟨rest, starts⟩ : ∃ rest, body.toList = '/' :: rest := by
      rw [Path.isAbsolute, Path.ofString, ← Text.encoded_toList, beq_iff_eq] at absolute
      exact Text.eq_slash_of_head? absolute
    have whole : body.toList = behindSlashes (rest.splitOn '/') := by
      rw [← cons_intercalate (List.splitOn_ne_nil '/' rest), List.intercalate_splitOn, starts]
    have known := prefix_of_below? below
    rw [components_ofString starts] at known
    obtain ⟨front, middle, tail, same, left, written, idle⟩ :=
      textAfter_split (splitOn_ofString starts) root.components.length
    refine ⟨front, middle, tail, ⟨same ▸ whole, ?_, ?_, idle⟩⟩
    · rcases left with left | left
      · exact .inl (by rw [left, toList_slashed_lossy])
      · exact .inr (by rw [left, toList_slashed_lossy])
    · intro piece member
      refine (written piece member).imp_right ?_
      rintro ⟨component, among, named⟩
      exact ⟨component, mem_of_mem_take known among, named⟩

end OutFiles

end EarlyBreak
