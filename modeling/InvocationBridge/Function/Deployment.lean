import InvocationBridge.Function.Settings
import InvocationBridge.Message.Intake
import InvocationBridge.Message.Reply
import InvocationBridge.PetStore.Routes
import InvocationBridge.Web.Dispatcher
import InvocationBridge.Web.GatewayEvent

/-!
Applications deployed as functions: one invocation from payload to answer.

A gateway request goes to the application as the HTTP request it describes. Any other payload is
posted to the event route as it is, with the kind of event in a header.
-/

namespace InvocationBridge

/-- Why an invocation has no answer. -/
inductive InvocationFailure where
  /-- The payload could not be taken in, or the answer not be encoded. -/
  | bridge (error : MessageError)
  /-- The application failed on an event that has no HTTP response to say so. -/
  | application (status : Http.Status) (message : String)

def InvocationFailure.text : InvocationFailure → String
  | bridge error => error.message
  | application status message => s!"{status.text}: {message}"

structure Deployment (σ H : Type) where
  dispatcher : Dispatcher σ H
  settings : Settings
  catalog : Catalog := .standard

namespace Deployment

variable {σ H : Type}

def intake (d : Deployment σ H) : Intake where
  catalog := d.catalog
  codec := .compact
  declared := d.settings.inputType

/-- The kind of event that the declared input type stands for. -/
def kindName (d : Deployment σ H) : String :=
  match d.catalog.kind? d.settings.inputType with
  | some kind => kind.name
  | none => "unknown"

/-- The value of the header for the kind of event. -/
def kindValue (d : Deployment σ H) : Http.HeaderValue :=
  match d.catalog.kind? d.settings.inputType with
  | some kind => ofKind kind
  | none => ⟨Bytes.ofText "unknown", by decide⟩
where
  ofKind (kind : EventKind) : Http.HeaderValue := ⟨Bytes.ofText kind.name, by cases kind <;> decide⟩

/-- The request that posts a payload to the event route. -/
def eventRequest (d : Deployment σ H) (raw : Bytes) : Request :=
  let request : Request := { method := .post, path := d.settings.eventRoute, body := raw }
  (request.putHeader PetStore.kindHeader d.kindValue).putHeader .contentType .json

/-- The request that the application sees for a payload. -/
def requestFor (d : Deployment σ H) (raw : Bytes) (payload : Json) :
    Logged (Except Failure Request) :=
  if isGatewayRequest payload then GatewayEvent.toRequest payload
  else do
    Log.debug s!"Posting a {d.kindName} event to {d.settings.eventRoute}"
    return .ok (d.eventRequest raw)

/-- Run a payload through the application. One that is no proper request is a failure on record
without reaching it. -/
def dispatch (d : Deployment σ H) (raw : Bytes) (payload : Json) :
    Effect σ (Dispatcher.Served σ H) := do
  match ← d.requestFor raw payload with
  | .ok request => d.dispatcher.serve request {}
  | .error failure =>
    Log.info s!"Cannot dispatch the invocation: {failure.message}"
    let (_, response) ← ({} : Response).failWith failure
    return ⟨.ok (), response, d.dispatcher⟩

/-- The answer that a response makes. For a request from a gateway the response itself tells of a
failure, otherwise the failure is the answer. -/
def answer (d : Deployment σ H) (request : Message) (response : Response) :
    Logged (Except InvocationFailure Bytes) := do
  Log.debug s!"Handler responded with {response.status.text}"
  match request.isSet Message.gatewayFlag, response.failure with
  | false, some failure => return .error (.application failure.status failure.message)
  | _, _ =>
    let encoded ← Reply.encode request (some response.toMessage) .compact d.settings.outputType
    return encoded.mapError .bridge

/-- Handle the payload of an invocation in its context, which may have no JSON form. -/
def invoke (d : Deployment σ H) (raw : Bytes) (context : Except Json.Error Json) :
    Effect σ (Except Panic (Except InvocationFailure Bytes) × Deployment σ H) := do
  match ← d.intake.acceptDecoded raw context with
  | .error e => return (.ok (.error (.bridge e)), d)
  | .ok (request, payload) =>
    let served ← d.dispatch raw payload
    let d := { d with dispatcher := served.dispatcher }
    match served.ending with
    | .error panic => return (.error panic, d)
    | .ok () => return (.ok (← d.answer request served.response), d)

/-- The pet store, which starts with the first invocation. -/
def ofPetStore (settings : Settings) : Deployment RandomSource (RouteMatch RandomSource) where
  dispatcher := .dormant PetStore.launch
  settings := settings

/-- An answer as a JSON value: the value it spells, or else a string of its text. -/
def valueOf (output : Bytes) : Json :=
  match Json.parse output with
  | .ok value => value
  | .error _ => .str output.textLossy

/-- Handle a payload that was decoded already, and give the answer as a value. -/
def respond (d : Deployment σ H) (payload : Json) (context : InvocationContext) :
    Effect σ (Except Panic (Except InvocationFailure Json) × Deployment σ H) := do
  let (result, d) ← d.invoke payload.bytes (.ok context.toJson)
  return (result.map fun answer => answer.map valueOf, d)

end Deployment

end InvocationBridge
