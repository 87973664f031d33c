import InvocationBridge.Effect.Log
import InvocationBridge.Event.Catalog
import InvocationBridge.Message.Basic

/-!
From the payload of an invocation to a message.

The message carries the payload as it came. Its headers say where the payload came from, hold the
context of the invocation, and take over whatever headers the payload itself has.
-/

namespace InvocationBridge

/-- For whom payloads are taken in: the events that are known, the codec, the input type that the
handler declares, and whether it is a producer, which takes no input. -/
structure Intake where
  catalog : Catalog
  codec : Json.Codec
  declared : Option String := none
  producer : Bool := false

namespace Intake

/-- The headers that the bridge sets: markers of the origin, and the context. -/
def markers (intake : Intake) (payload : Json) (context : Option Json) : Fields Json :=
  let gateway := if isGatewayRequest payload then [(Message.gatewayFlag, Json.bool true)] else []
  let event :=
    if !intake.producer && (intake.catalog.kind? intake.declared).isSome then
      [(Message.eventFlag, Json.bool true)]
    else []
  let contexts := match context with
    | some value => [(Message.contextHeader, value)]
    | none => []
  Fields.ofList (gateway ++ event ++ contexts)

/-- The headers that a payload brings along. -/
def callerHeaders (payload : Json) : Fields Json :=
  ((payload.field? "headers").bind Json.obj?).getD []

/-- The message for a payload, whose own headers win over those of the bridge, and the decoded
payload. -/
def take (intake : Intake) (raw : Bytes) (context : Option Json) :
    Logged (Except MessageError (Message × Json)) := do
  Log.info s!"Received: {raw.shown}"
  match intake.codec.decode raw with
  | .error e => return .error (.notDecoded e)
  | .ok payload =>
    let declared := match intake.declared with
      | some name => s!"Some({Text.quoted name})"
      | none => "None"
    let origin := intake.catalog.origin payload intake.declared
    Log.debug s!"Classified as {origin.label}, declared input: {declared}"
    let headers := (callerHeaders payload).insertAll (intake.markers payload context)
    return .ok (⟨.raw raw, headers⟩, payload)

/-- The message for a payload without a context. -/
def accept (intake : Intake) (raw : Bytes) : Logged (Except MessageError Message) := do
  return (← intake.take raw none).map Prod.fst

/-- The message for a payload and a context, with the decoded payload. A context that has no JSON
form is refused before the payload is looked at. -/
def acceptDecoded (intake : Intake) (raw : Bytes) (context : Except Json.Error Json) :
    Logged (Except MessageError (Message × Json)) :=
  match context with
  | .error e => return .error (.notEncoded "invocation context" e)
  | .ok value => intake.take raw (some value)

/-- The message for a payload and a context. -/
def acceptInContext (intake : Intake) (raw : Bytes) (context : Except Json.Error Json) :
    Logged (Except MessageError Message) := do
  return (← intake.acceptDecoded raw context).map Prod.fst

end Intake

end InvocationBridge
