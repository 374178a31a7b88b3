import EarlyBreak.Debugger.Location

/-! What the engine notifies a debugger of: scripts, pauses and resumptions. -/

namespace EarlyBreak.Debugger

/-- A script that the engine has parsed. -/
structure Script where
  id : ScriptId
  url : String
  /-- The URL of its source map. -/
  mapUrl : Option String
  deriving DecidableEq, Repr

namespace Script

/-- The keys of the record, in their order. -/
def keys : List String := ["scriptId", "url", "sourceMapURL"]

/-- Reads the record. -/
def ofJson? (value : Json) : Option Script := do
  match ← value.fields? keys .ignored with
  | [id, url, mapUrl] =>
      return {
        id := ← Json.required? Json.text? id
        url := ← Json.required? Json.text? url
        mapUrl := ← Json.optional? Json.text? mapUrl }
  | _ => none

/-- Writes the record. -/
def toJson (script : Script) : Json :=
  .object ([("scriptId", .string script.id), ("url", .string script.url)]
    ++ match script.mapUrl with
      | some url => [("sourceMapURL", .string url)]
      | none => [])

end Script

/-- A frame of the call stack. -/
structure CallFrame where
  id : String
  functionName : String
  location : Location
  /-- The URL of the script, or nothing. -/
  url : String
  deriving DecidableEq, Repr

namespace CallFrame

/-- The keys of the record, in their order. -/
def keys : List String := ["callFrameId", "functionName", "location", "url"]

/-- Reads the record. -/
def ofJson? (value : Json) : Option CallFrame := do
  match ← value.fields? keys .ignored with
  | [id, functionName, location, url] =>
      return {
        id := ← Json.defaulted? "" Json.text? id
        functionName := ← Json.defaulted? "" Json.text? functionName
        location := ← Json.required? Location.ofJson? location
        url := ← Json.defaulted? "" Json.text? url }
  | _ => none

/-- Writes the record. -/
def toJson (frame : CallFrame) : Json :=
  .object [("callFrameId", .string frame.id), ("functionName", .string frame.functionName),
    ("location", frame.location.toJson), ("url", .string frame.url)]

end CallFrame

/-- One of several reasons for a pause. -/
structure PauseReason where
  reason : String
  data : Option Json
  deriving Repr

namespace PauseReason

/-- The keys of the record, in their order. -/
def keys : List String := ["reason", "auxData"]

/-- Reads the record. -/
def ofJson? (value : Json) : Option PauseReason := do
  match ← value.fields? keys .ignored with
  | [reason, data] =>
      return {
        reason := ← Json.required? Json.text? reason
        data := ← Json.optional? some data }
  | _ => none

end PauseReason

/-- A stop of the target. -/
structure Pause where
  reason : String
  data : Option Json
  /-- The breakpoints that were hit, in the engine's order. -/
  hits : List BreakpointId
  /-- The call stack, the innermost frame first. -/
  frames : List CallFrame
  deriving Repr

namespace Pause

/-- The keys of the record, in their order. -/
def keys : List String := ["reason", "data", "hitBreakpoints", "callFrames"]

/-- Reads the record. -/
def ofJson? (value : Json) : Option Pause := do
  match ← value.fields? keys .ignored with
  | [reason, data, hits, frames] =>
      return {
        reason := ← Json.required? Json.text? reason
        data := ← Json.optional? some data
        hits := ← Json.defaulted? [] Json.texts? hits
        frames := ← Json.defaulted? [] (Json.listOf? CallFrame.ofJson?) frames }
  | _ => none

/-- Writes the record.  What is absent or no breakpoints at all are left out. -/
def toJson (pause : Pause) : Json :=
  .object ([("reason", .string pause.reason)]
    ++ (match pause.data with
      | some data => [("data", data)]
      | none => [])
    ++ (if pause.hits.isEmpty then []
      else [("hitBreakpoints", .array (pause.hits.map .string))])
    ++ [("callFrames", .array (pause.frames.map CallFrame.toJson))])

/-- Where the target stands. -/
def location? (pause : Pause) : Option Location := pause.frames.head?.map (·.location)

/-- The name of the event in the data of a pause or of a reason. -/
def eventName? (data : Option Json) : Option String :=
  (data.bind (·.member? "eventName")).bind Json.text?

/-- The reasons in the data of a pause that has several. -/
def reasons? (pause : Pause) : Option (List PauseReason) := do
  Json.listOf? PauseReason.ofJson? (← (← pause.data).member? "reasons")

/-- Whether a reason and its data are those of a pause at the first statement of a script. -/
def isInstrumentationReason (reason : String) (data : Option Json) : Bool :=
  match reason with
  | "instrumentation" => true
  | "EventListener" => eventName? data == some "instrumentation:scriptFirstStatement"
  | _ => false

/-- Whether a pause is one at the first statement of a script.  A pause with several reasons is if
it has any and each of them is.
-/
def isInstrumentation (pause : Pause) : Bool :=
  if pause.reason = "ambiguous" then
    match pause.reasons? with
    | some (first :: rest) =>
        (first :: rest).all fun entry => isInstrumentationReason entry.reason entry.data
    | _ => false
  else isInstrumentationReason pause.reason pause.data

end Pause

/-- A notification of the engine. -/
inductive Event where
  | scriptParsed (script : Script)
  | paused (pause : Pause)
  | resumed
  deriving Repr

/-- A notification whose parameters are not what its method promises. -/
structure MalformedEvent where
  method : String
  deriving DecidableEq, Repr

/-- The event of a notification; methods that do not matter here have none. -/
def Event.ofNotification? (method : String) (params : Json) :
    Except MalformedEvent (Option Event) :=
  let decoded (event : Option Event) : Except MalformedEvent (Option Event) :=
    match event with
    | some event => .ok (some event)
    | none => .error ⟨method⟩
  match method with
  | "Debugger.scriptParsed" => decoded ((Script.ofJson? params).map .scriptParsed)
  | "Debugger.paused" => decoded ((Pause.ofJson? params).map .paused)
  | "Debugger.resumed" => .ok (some .resumed)
  | _ => .ok none

end EarlyBreak.Debugger
