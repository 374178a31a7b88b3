import EarlyBreak.Debugger.Event
import EarlyBreak.Proofs.Json.Records

/-! Pauses with several reasons.  The data of such a pause list them, each as an object or as a list
of its fields, and the pause is one at the first statement of a script exactly if there are any and
each of them, taken as a pause of its own, is one.
-/

namespace EarlyBreak.Debugger

namespace PauseReason

variable {value : Json} {entry : PauseReason}

/-- Data that a field gives.  Null gives none. -/
def given : Option Json → Option Json
  | some .null => none
  | field => field

/-- A value is a reason with its data: an object with these two fields among others, of which the
data may be missing, or a list of them in order.
-/
inductive Describes : Json → PauseReason → Prop
  | object {members reason field} (named : Json.HasField members "reason" (some (.string reason)))
    (data : Json.HasField members "auxData" field)
    : Describes (.object members) ⟨reason, given field⟩
  | list (reason : String) (field : Option Json)
    : Describes (.array (.string reason :: field.toList)) ⟨reason, given field⟩

theorem optional?_some (field : Option Json) : Json.optional? some field = some (given field) := by
  unfold Json.optional? given
  split <;> simp_all

/-- A reason is read from its two fields, whatever form they came in. -/
theorem ofJson?_eq_some_iff_fields
    : ofJson? value = some entry
      ↔ ∃ field,
          value.fields? keys .ignored = some [some (.string entry.reason), field]
          ∧ entry.data = given field := by
  simp only [ofJson?, bind, Option.bind_eq_some_iff]
  constructor
  · rintro ⟨fields, found, read⟩
    split at read
    case h_1 reason field =>
      simp only [optional?_some, Option.bind_eq_some_iff, pure, Option.some.injEq] at read
      obtain ⟨name, named, data, rfl, rfl⟩ := read
      have text : reason = some (.string name) := by
        cases reason with
        | none => cases named
        | some reason => cases reason <;> simp_all [Json.required?, Json.text?]
      exact ⟨field, by rw [found, text], rfl⟩
    case h_2 => cases read
  · rintro ⟨field, found, data⟩
    refine ⟨_, found, ?_⟩
    simp only [Json.required?_some, Json.text?, optional?_some, Option.bind_some, pure,
      Option.some.injEq]
    rw [← data]

/-- A reason is read from the values that describe it, and from no others. -/
theorem ofJson?_eq_some_iff : ofJson? value = some entry ↔ Describes value entry := by
  obtain ⟨reason, data⟩ := entry
  simp only [ofJson?_eq_some_iff_fields]
  constructor
  · rintro ⟨field, found, rfl⟩
    cases value with
    | object members =>
        rw [Json.fields?, Json.objectFields?_eq_some_iff] at found
        simp only [keys, List.forall₂_cons, List.Forall₂.nil, and_true] at found
        exact .object found.1 found.2
    | array items =>
        rw [Json.fields?] at found
        rcases items with _ | ⟨first, _ | ⟨second, _ | ⟨third, rest⟩⟩⟩
        · simp [keys] at found
        · obtain ⟨rfl, rfl⟩ : first = .string reason ∧ none = field := by
            simpa [keys] using found
          exact .list reason none
        · obtain ⟨rfl, rfl⟩ : first = .string reason ∧ some second = field := by
            simpa [keys] using found
          exact .list reason (some second)
        · simp [keys] at found
    | null | bool | int | real | string | unreadable => cases found
  · intro describes
    cases describes with
    | object named data =>
        refine ⟨_, ?_, rfl⟩
        rw [Json.fields?, Json.objectFields?_eq_some_iff]
        exact .cons named (.cons data .nil)
    | list reason field =>
        refine ⟨field, ?_, rfl⟩
        cases field <;> rfl

/-- A pause for one reason alone, with breakpoints and a call stack of its own. -/
def alone (hits : List BreakpointId) (frames : List CallFrame) (entry : PauseReason) : Pause :=
  ⟨entry.reason, entry.data, hits, frames⟩

end PauseReason

namespace Pause

variable {pause : Pause} {entries : List PauseReason}

/-- The data of a pause list these reasons. -/
def Lists (pause : Pause) (entries : List PauseReason) : Prop :=
  ∃ data items,
    pause.data = some data
    ∧ data.member? "reasons" = some (.array items)
    ∧ List.Forall₂ PauseReason.Describes items entries

/-- The reasons of a pause are those that its data list, each of which was read. -/
theorem reasons?_eq_some_iff : pause.reasons? = some entries ↔ pause.Lists entries := by
  simp only [reasons?, Json.listOf?, bind, Option.bind_eq_some_iff, Json.mapM_eq_some_iff,
    PauseReason.ofJson?_eq_some_iff, Lists]
  constructor
  · rintro ⟨data, known, value, listed, items, array, described⟩
    cases value with
    | array =>
        obtain rfl := Option.some.inj array
        exact ⟨data, _, known, listed, described⟩
    | null | bool | int | real | string | object | unreadable => cases array
  · rintro ⟨data, items, known, listed, described⟩
    exact ⟨data, known, _, listed, items, rfl, described⟩

/-- A pause with one reason is judged by it. -/
theorem isInstrumentation_of_ne (pause : Pause) (single : pause.reason ≠ "ambiguous")
    : pause.isInstrumentation = isInstrumentationReason pause.reason pause.data := by
  rw [isInstrumentation, if_neg single]

/-- A reason that stands for several is none of its own. -/
theorem isInstrumentationReason_ambiguous (data : Option Json)
    : isInstrumentationReason "ambiguous" data = false := rfl

/-- The test on a reason is the one on a pause for that reason alone. -/
theorem isInstrumentationReason_iff_alone (entry : PauseReason) (hits : List BreakpointId)
    (frames : List CallFrame)
    : isInstrumentationReason entry.reason entry.data = true
      ↔ entry.reason ≠ "ambiguous" ∧ (entry.alone hits frames).isInstrumentation = true := by
  constructor
  · intro accepted
    have single : entry.reason ≠ "ambiguous" := by
      intro several
      rw [several, isInstrumentationReason_ambiguous] at accepted
      cases accepted
    exact ⟨single, (isInstrumentation_of_ne (entry.alone hits frames) single).trans accepted⟩
  · rintro ⟨single, accepted⟩
    exact (isInstrumentation_of_ne (entry.alone hits frames) single).symm.trans accepted

/-- A pause with several reasons passes exactly if there are any and all pass. -/
theorem isInstrumentation_iff_of_ambiguous (ambiguous : pause.reason = "ambiguous")
    : pause.isInstrumentation = true
      ↔ ∃ entries,
          pause.reasons? = some entries
          ∧ entries ≠ []
          ∧ ∀ entry ∈ entries, isInstrumentationReason entry.reason entry.data = true := by
  rw [isInstrumentation, if_pos ambiguous]
  cases pause.reasons? with
  | none => simp
  | some entries => cases entries <;> simp

/-- A pause with several reasons is one at the first statement of a script exactly if it lists some
and each of them, taken as a pause of its own, is one.  Data without a list of reasons, an empty
list, and a reason that stands for several again make it another pause.
-/
theorem judged_by_reasons (ambiguous : pause.reason = "ambiguous") (hits : List BreakpointId)
    (frames : List CallFrame)
    : (pause.isInstrumentation = true
        ↔ ∃ entries,
            pause.Lists entries
            ∧ entries ≠ []
            ∧ ∀ entry ∈ entries,
                entry.reason ≠ "ambiguous"
                ∧ (entry.alone hits frames).isInstrumentation = true)
      ∧ ((∀ entries,
            pause.Lists entries → entries = [] ∨ ∃ entry ∈ entries, entry.reason = "ambiguous")
          → pause.isInstrumentation = false) := by
  have judged : pause.isInstrumentation = true
      ↔ ∃ entries,
          pause.Lists entries
          ∧ entries ≠ []
          ∧ ∀ entry ∈ entries,
              entry.reason ≠ "ambiguous"
              ∧ (entry.alone hits frames).isInstrumentation = true := by
    simp only [isInstrumentation_iff_of_ambiguous ambiguous, reasons?_eq_some_iff,
      isInstrumentationReason_iff_alone _ hits frames]
  refine ⟨judged, fun unfit => ?_⟩
  rw [← Bool.not_eq_true, judged]
  rintro ⟨entries, lists, nonempty, each⟩
  rcases unfit entries lists with empty | ⟨entry, among, nested⟩
  · exact nonempty empty
  · exact (each entry among).1 nested

/-- A pause for two reasons, an object and a list, and one with a reason that lists these two. -/
theorem judged_by_reasons_nested
    : let event : Json := .object [("eventName", .string "instrumentation:scriptFirstStatement")]
      let listener : Json := .object [("auxData", event), ("reason", .string "EventListener")]
      let hook : Json := .array [.string "instrumentation"]
      let both : Json := .object [("reasons", .array [listener, hook])]
      let again : Json := .array [.string "ambiguous", both]
      let nested : Json := .object [("reasons", .array [listener, again])]
      (⟨"ambiguous", some both, [], []⟩ : Pause).isInstrumentation = true
      ∧ (∃ entries,
          (⟨"ambiguous", some both, [], []⟩ : Pause).Lists entries
          ∧ entries ≠ []
          ∧ ∀ entry ∈ entries,
              entry.reason ≠ "ambiguous" ∧ (entry.alone ["b"] []).isInstrumentation = true)
      ∧ (⟨"ambiguous", some nested, [], []⟩ : Pause).isInstrumentation = false := by
  intro event listener hook both again nested
  have accepted : (⟨"ambiguous", some both, [], []⟩ : Pause).isInstrumentation = true := rfl
  refine ⟨accepted, (judged_by_reasons rfl ["b"] []).1.mp accepted, ?_⟩
  refine (judged_by_reasons rfl [] []).2 fun entries lists => .inr ?_
  have read := reasons?_eq_some_iff.mpr lists
  have known : (⟨"ambiguous", some nested, [], []⟩ : Pause).reasons?
      = some [⟨"EventListener", some event⟩, ⟨"ambiguous", some both⟩] := rfl
  obtain rfl := Option.some.inj (known.symm.trans read)
  exact ⟨⟨"ambiguous", some both⟩, by simp, rfl⟩

end Pause

end EarlyBreak.Debugger
