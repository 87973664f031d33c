import InvocationBridge.Effect.Log
import InvocationBridge.Event.TypeName
import InvocationBridge.Http.Status
import InvocationBridge.Message.Basic
import InvocationBridge.Text.Blank
import InvocationBridge.Text.Numeral

/-!
From the answer of a handler to the octets that the invoking service expects.

A gateway gets an envelope with status, headers and body. Everyone else, and every handler that
declares to write the final form itself, gets the payload of the answer as it is.
-/

namespace InvocationBridge.Reply

/-- Output types that have the final form already. -/
def finalTypes : List String :=
  ["ApiGatewayV2httpResponse", "ApiGatewayProxyResponse", "AlbTargetGroupResponse",
    "ApiGatewayCustomAuthorizerResponse", "ApiGatewayV2CustomAuthorizerIamPolicyResponse"]

def isFinalType (declared : Option String) : Bool :=
  match declared with
  | some name => finalTypes.contains (TypeName.simple name)
  | none => false

/-- What goes out when the handler returned nothing: a JSON string. -/
def emptyAnswer : Bytes := Bytes.ofText "\"OK\""

/-- The payload of an answer on the wire. -/
def payload (codec : Json.Codec) : Option Message → Except MessageError Bytes
  | some response => response.payload.wire codec
  | none => .ok emptyAnswer

/-- The status that a header value gives: an integer, or a numeral with blanks around it. -/
def statusOf? (value : Json) : Option Http.Status :=
  let code := match value with
    | .str s => Numeral.parse? UInt16.size (Text.trimmed s.toList)
    | v => v.nat?
  code.bind Http.Status.ofNat?

/-- The status of an answer, which is 200 unless its header gives another one. -/
def status (response : Message) : Logged Http.Status :=
  match response.header? Message.statusHeader with
  | none => pure .ok
  | some value =>
    match statusOf? value with
    | some status => pure status
    | none => do
      Log.warn s!"Invalid statusCode header in the handler output: {value.text}. Using 200."
      return .ok

/-- The fields of the envelope. The meaning of the status goes in on demand, the headers if there is
an answer. -/
def envelope (status : Http.Status) (describe : Bool) (body : Bytes)
    (headers : Option (Fields Json)) : Json :=
  let description := if describe then [("statusDescription", Json.str status.text)] else []
  let headers := match headers with
    | some headers => [("headers", Json.obj (headers.mapValues fun v => .str v.plainText))]
    | none => []
  .obj (Fields.ofList
    ([("isBase64Encoded", .bool false), ("statusCode", .ofNat status.code)] ++ description ++
      [("body", .str body.textLossy)] ++ headers))

/-- The answer to a request on the wire. -/
def encode (request : Message) (response : Option Message) (codec : Json.Codec)
    (declared : Option String) : Logged (Except MessageError Bytes) := do
  match request.payload.wire codec with
  | .ok octets => Log.info s!"Encoding response for: {octets.shown}"
  | .error _ => pure ()
  match payload codec response with
  | .error e => return .error e
  | .ok body =>
    if isFinalType declared || !request.isSet Message.gatewayFlag then return .ok body
    else
      let status ← match response with
        | some response => status response
        | none => pure .ok
      let value := envelope status (request.hasHeader Message.recordsHeader) body
        (response.map Message.headers)
      return (codec.encode value).mapError
        (.invalidState "Failed to serialize AWS Lambda output")

end InvocationBridge.Reply
