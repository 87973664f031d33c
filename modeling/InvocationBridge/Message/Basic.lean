import InvocationBridge.Message.Context
import InvocationBridge.Json.Codec

/-!
Messages: a payload with named JSON values beside it.

A message is never changed once it is built; `put` makes another one.
-/

namespace InvocationBridge

/-- What a message carries: octets that travel as they are, or a value still to be encoded. -/
inductive Payload where
  | raw (octets : Bytes)
  | structured (value : Json)

structure Message where
  payload : Payload
  headers : Fields Json := []

/-- Why a payload could not become a message, or a message an answer. -/
inductive MessageError where
  | notDecoded (source : Json.Error)
  | notEncoded (what : String) (source : Json.Error)
  | invalidState (message : String) (source : Json.Error)

namespace MessageError

def source : MessageError → Json.Error
  | notDecoded source => source
  | notEncoded _ source => source
  | invalidState _ source => source

def message : MessageError → String
  | notDecoded source => s!"failed to decode the invocation payload: {source.message}"
  | notEncoded what source => s!"failed to encode {what}: {source.message}"
  | invalidState message _ => s!"invalid state: {message}"

end MessageError

/-- The octets of a payload on the wire. -/
def Payload.wire (codec : Json.Codec) : Payload → Except MessageError Bytes
  | raw octets => .ok octets
  | structured value => (codec.encode value).mapError (.notEncoded "message payload")

/-- Equality of payloads. -/
def Payload.same : Payload → Payload → Bool
  | raw a, raw b => a == b
  | structured v, structured w => v.same w
  | _, _ => false

namespace Message

/-- Set on messages that came from a gateway. -/
def gatewayFlag : String := "aws-api-gateway"

/-- Set on messages whose handler declares a known type of event. -/
def eventFlag : String := "aws-event"

/-- Holds the context of the invocation. -/
def contextHeader : String := "aws-context"

/-- Holds the HTTP status of an answer. -/
def statusHeader : String := "statusCode"

/-- Stands on requests that want the meaning of the status beside it. -/
def recordsHeader : String := "Records"

def header? (m : Message) (name : String) : Option Json := m.headers.get? name

def hasHeader (m : Message) (name : String) : Bool := (m.header? name).isSome

/-- Whether a header is there and is `true`. -/
def isSet (m : Message) (name : String) : Bool :=
  match m.header? name with
  | some (.bool true) => true
  | _ => false

def put (m : Message) (name : String) (value : Json) : Message :=
  { m with headers := m.headers.insert name value }

/-- The context of the invocation, if there is one. -/
def context? (m : Message) : Except Json.Error (Option InvocationContext) :=
  match m.header? contextHeader with
  | some value => (InvocationContext.ofJson value).map some
  | none => .ok none

/-- Equality of messages. -/
def same (a b : Message) : Bool :=
  a.payload.same b.payload && Json.sameFields a.headers b.headers

end Message

/-- A payload as log lines show it: the text, or hexadecimal digits if it is none. -/
def Bytes.shown (octets : Bytes) : String :=
  match octets.text? with
  | some text => text
  | none => s!"(non-UTF-8, hex) {String.ofList (Hex.ofBytes octets)}"

end InvocationBridge
