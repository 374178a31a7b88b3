import EarlyBreak.Debugger.Event
import EarlyBreak.Proofs.Json.Records

/-! Notifications that are decoded, written and decoded again.  Whatever form they came in, an event
is written as an object from which the same event is read, down to the frames of its call stack and
to data of any form.
-/

namespace EarlyBreak.Debugger

namespace Location

variable {location : Location} {value : Json}

/-- A line and a column of 32 bits, as they are read. -/
structure Fits (location : Location) : Prop where
  line : location.line < Nat.pow 2 32
  column : ∀ column ∈ location.column, column < Nat.pow 2 32

/-- The line and the column of a location that is read are numbers of 32 bits. -/
theorem fits_of_ofJson? (read : ofJson? value = some location) : location.Fits := by
  simp only [ofJson?, bind, Option.bind_eq_some_iff] at read
  obtain ⟨fields, -, read⟩ := read
  split at read
  case h_1 script line column =>
    simp only [Option.bind_eq_some_iff, pure, Option.some.injEq] at read
    obtain ⟨id, -, number, numbered, place, placed, rfl⟩ := read
    refine ⟨?_, fun column given => ?_⟩
    · cases line with
      | none => cases numbered
      | some line => exact Json.lt_of_natBelow? numbered
    · obtain ⟨json, -, -, read⟩ := Json.exists_of_optional? placed column given
      exact Json.lt_of_natBelow? read
  case h_2 => cases read

/-- The fields that are written of a location are those that are read, the column if there is one.
-/
theorem fields?_toJson (location : Location)
    : location.toJson.fields? keys .ignored
      = some [some (.string location.script), some (.int location.line),
          location.column.map fun column => .int column] := by
  unfold toJson
  cases location.column
  all_goals
    rw [Json.fields?_object_of_ignored (by simp)]
    simp [keys, List.lookup_cons]

/-- What is read depends on the fields. -/
theorem ofJson?_of_fields {script line column : Option Json}
    (fields : value.fields? keys .ignored = some [script, line, column])
    : ofJson? value = do
        return {
          script := ← Json.required? Json.text? script
          line := ← Json.required? Json.word32? line
          column := ← Json.optional? Json.word32? column } := by
  rw [ofJson?, fields]
  rfl

/-- A location that fits is read from what is written of it. -/
theorem ofJson?_toJson (fits : location.Fits) : ofJson? location.toJson = some location := by
  have line := Json.word32?_int fits.line
  have column : Json.optional? Json.word32? (location.column.map fun column : Nat => .int column)
      = some location.column :=
    Json.optional?_map (by simp) fun column given => Json.word32?_int (fits.column column given)
  rw [ofJson?_of_fields (fields?_toJson location), Json.required?_some, Json.required?_some, line,
    column]
  rfl

end Location

namespace Script

theorem fields?_toJson (script : Script)
    : script.toJson.fields? keys .ignored
      = some [some (.string script.id), some (.string script.url), script.mapUrl.map .string] := by
  unfold toJson
  cases script.mapUrl
  all_goals
    rw [Json.fields?_object_of_ignored (by simp)]
    simp [keys, List.lookup_cons]

/-- A script is read from what is written of it. -/
theorem ofJson?_toJson (script : Script) : ofJson? script.toJson = some script := by
  have mapUrl : Json.optional? Json.text? (script.mapUrl.map .string) = some script.mapUrl :=
    Json.optional?_map (by simp) fun _ _ => rfl
  simp only [ofJson?, fields?_toJson, Option.bind_eq_bind, Option.bind_some, Json.required?_some,
    Json.text?, mapUrl, Option.pure_def]

end Script

namespace CallFrame

variable {frame : CallFrame} {value : Json}

/-- The location of a frame that is read fits. -/
theorem fits_of_ofJson? (read : ofJson? value = some frame) : frame.location.Fits := by
  simp only [ofJson?, bind, Option.bind_eq_some_iff] at read
  obtain ⟨fields, -, read⟩ := read
  split at read
  case h_1 id functionName location url =>
    simp only [Option.bind_eq_some_iff, pure, Option.some.injEq] at read
    obtain ⟨_, -, _, -, place, placed, _, -, rfl⟩ := read
    cases location with
    | none => cases placed
    | some location => exact Location.fits_of_ofJson? placed
  case h_2 => cases read

theorem fields?_toJson (frame : CallFrame)
    : frame.toJson.fields? keys .ignored
      = some [some (.string frame.id), some (.string frame.functionName),
          some frame.location.toJson, some (.string frame.url)] := by
  rw [toJson, Json.fields?_object_of_ignored (by simp)]
  simp [keys, List.lookup_cons]

/-- A frame is read from what is written of it, if its location fits. -/
theorem ofJson?_toJson (fits : frame.location.Fits) : ofJson? frame.toJson = some frame := by
  simp only [ofJson?, fields?_toJson, Option.bind_eq_bind, Option.bind_some, Json.defaulted?_some,
    Json.required?_some, Json.text?, Location.ofJson?_toJson fits, Option.pure_def]

end CallFrame

namespace Pause

variable {pause : Pause} {value : Json}

/-- A pause as it is read: data are not null, and each frame has a location that fits. -/
structure Fits (pause : Pause) : Prop where
  data : pause.data ≠ some .null
  frames : ∀ frame ∈ pause.frames, frame.location.Fits

/-- A pause that is read fits: null stands for no data, and each frame was read. -/
theorem fits_of_ofJson? (read : ofJson? value = some pause) : pause.Fits := by
  simp only [ofJson?, bind, Option.bind_eq_some_iff] at read
  obtain ⟨fields, -, read⟩ := read
  split at read
  case h_1 reason data hits frames =>
    simp only [Option.bind_eq_some_iff, pure, Option.some.injEq] at read
    obtain ⟨_, -, known, given, _, -, stack, stacked, rfl⟩ := read
    refine ⟨fun null => ?_, ?_⟩
    · obtain ⟨json, -, there, same⟩ := Json.exists_of_optional? given .null null
      exact there (Option.some.inj same)
    · cases frames with
      | none =>
          obtain rfl := Option.some.inj stacked
          nofun
      | some frames =>
          intro frame member
          obtain ⟨item, read⟩ := Json.exists_of_listOf? stacked frame member
          exact CallFrame.fits_of_ofJson? read
  case h_2 => cases read

/-- Data and breakpoints are written only if there are any, and read as absent otherwise. -/
theorem fields?_toJson (pause : Pause)
    : pause.toJson.fields? keys .ignored
      = some [some (.string pause.reason), pause.data,
          if pause.hits.isEmpty then none else some (.array (pause.hits.map .string)),
          some (.array (pause.frames.map CallFrame.toJson))] := by
  unfold toJson
  cases pause.data <;> cases pause.hits.isEmpty
  all_goals
    rw [Json.fields?_object_of_ignored (by simp)]
    simp [keys, List.lookup_cons]

/-- A pause that fits is read from what is written of it, field by field. -/
theorem ofJson?_toJson (fits : pause.Fits) : ofJson? pause.toJson = some pause := by
  have data : Json.optional? some (pause.data.map id) = some pause.data := by
    refine Json.optional?_map (fun known given null => fits.data ?_) fun _ _ => rfl
    rw [given, ← null]
    rfl
  rw [Option.map_id, id] at data
  have hits : Json.defaulted? [] Json.texts?
      (if pause.hits.isEmpty then none else some (.array (pause.hits.map .string)))
      = some pause.hits := by
    cases none : pause.hits.isEmpty with
    | true => rw [if_pos rfl, List.isEmpty_iff.mp none, Json.defaulted?]
    | false => rw [if_neg Bool.false_ne_true, Json.defaulted?, Json.texts?_array]
  have stack : Json.defaulted? [] (Json.listOf? CallFrame.ofJson?)
      (some (.array (pause.frames.map CallFrame.toJson)))
      = some pause.frames :=
    Json.listOf?_array fun frame member => CallFrame.ofJson?_toJson (fits.frames frame member)
  simp only [ofJson?, fields?_toJson, Option.bind_eq_bind, Option.bind_some, Json.required?_some,
    Json.text?, data, hits, stack, Option.pure_def]

end Pause

namespace Event

variable {method : String} {params : Json} {event : Event}

/-- The parameters that are written of an event.  A resumption has none. -/
def params? : Event → Option Json
  | scriptParsed script => some script.toJson
  | paused pause => some pause.toJson
  | resumed => none

/-- A notification has an event that matters for one of three methods. -/
theorem ofNotification?_cases (decoded : ofNotification? method params = .ok (some event))
    : (∃ script, method = "Debugger.scriptParsed" ∧ Script.ofJson? params = some script
        ∧ event = .scriptParsed script)
      ∨ (∃ pause, method = "Debugger.paused" ∧ Pause.ofJson? params = some pause
        ∧ event = .paused pause)
      ∨ method = "Debugger.resumed" ∧ event = .resumed := by
  unfold ofNotification? at decoded
  split at decoded
  case h_1 =>
    cases read : Script.ofJson? params with
    | none => simp [read] at decoded
    | some script =>
        simp only [read, Option.map_some, Except.ok.injEq, Option.some.injEq] at decoded
        exact .inl ⟨script, rfl, rfl, decoded.symm⟩
  case h_2 =>
    cases read : Pause.ofJson? params with
    | none => simp [read] at decoded
    | some pause =>
        simp only [read, Option.map_some, Except.ok.injEq, Option.some.injEq] at decoded
        exact .inr (.inl ⟨pause, rfl, rfl, decoded.symm⟩)
  case h_3 => exact .inr (.inr ⟨rfl, (Option.some.inj (Except.ok.inj decoded)).symm⟩)
  case h_4 => cases decoded

theorem ofNotification?_script {script : Script} (read : Script.ofJson? params = some script)
    : ofNotification? "Debugger.scriptParsed" params = .ok (some (.scriptParsed script)) := by
  simp only [ofNotification?, read, Option.map_some]

theorem ofNotification?_pause {pause : Pause} (read : Pause.ofJson? params = some pause)
    : ofNotification? "Debugger.paused" params = .ok (some (.paused pause)) := by
  simp only [ofNotification?, read, Option.map_some]

/-- Whatever parameters a script or a pause was decoded from, parameters are written of it, and they
decode to the same event again.
-/
theorem decoded_again (decoded : ofNotification? method params = .ok (some event))
    (tells : event ≠ .resumed)
    : ∃ written,
        event.params? = some written ∧ ofNotification? method written = .ok (some event) := by
  rcases ofNotification?_cases decoded with script | pause | resumed
  · obtain ⟨script, rfl, -, rfl⟩ := script
    exact ⟨script.toJson, rfl, ofNotification?_script script.ofJson?_toJson⟩
  · obtain ⟨pause, rfl, read, rfl⟩ := pause
    have fits := Pause.fits_of_ofJson? read
    exact ⟨pause.toJson, rfl, ofNotification?_pause (Pause.ofJson?_toJson fits)⟩
  · exact absurd resumed.2 tells

/-- A pause whose parameters are listed, as are those of its only frame and of the place there, and
a script whose parameters are listed, with no map.
-/
theorem decoded_again_listed
    : let data : Json := .object [("eventName", .null), ("eventName", .array [.real "1e2"])]
      let place : Json := .array [.string "42", .int 4294967295]
      let stopped : Json := .array [.string "other", data, .array [],
        .array [.array [.string "f0", .string "", place]]]
      let pause : Pause := ⟨"other", some data, [], [⟨"f0", "", ⟨"42", 4294967295, none⟩, ""⟩]⟩
      let parsed : Json := .array [.string "42", .string "", .null]
      let script : Script := ⟨"42", "", none⟩
      ofNotification? "Debugger.paused" stopped = .ok (some (.paused pause))
      ∧ ofNotification? "Debugger.paused" pause.toJson = .ok (some (.paused pause))
      ∧ ofNotification? "Debugger.scriptParsed" parsed = .ok (some (.scriptParsed script))
      ∧ ofNotification? "Debugger.scriptParsed" script.toJson
        = .ok (some (.scriptParsed script)) := by
  intro data place stopped pause parsed script
  have paused : ofNotification? "Debugger.paused" stopped = .ok (some (.paused pause)) := rfl
  have found : ofNotification? "Debugger.scriptParsed" parsed = .ok (some (.scriptParsed script)) :=
    rfl
  obtain ⟨_, ⟨⟩, again⟩ := decoded_again paused nofun
  obtain ⟨_, ⟨⟩, also⟩ := decoded_again found nofun
  exact ⟨paused, again, found, also⟩

end Event

end EarlyBreak.Debugger
