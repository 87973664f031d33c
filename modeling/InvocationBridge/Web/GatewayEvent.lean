import InvocationBridge.Base64
import InvocationBridge.Web.Failure
import InvocationBridge.Web.Request

/-!
The HTTP request that a gateway event describes.

Two formats are read alike: one has the method and path at the top, the other further inside.
-/

namespace InvocationBridge.GatewayEvent

/-- The value of the method, wherever it is. -/
def methodValue? (event : Json) : Option Json :=
  event.field? "httpMethod" <|> event.at? ["requestContext", "http", "method"]

def method (event : Json) : Except Failure Http.Method :=
  match (methodValue? event).bind Json.str? with
  | none => .error (.badRequest "The event has no HTTP method")
  | some name =>
    match Http.Method.parse? name with
    | none => .error (.badRequest s!"Invalid HTTP method: {name}")
    | some method => .ok method

/-- The path at the first of three places where there is a value, if that is a text. -/
def path (event : Json) : String :=
  let value := event.field? "path" <|> event.field? "rawPath" <|>
    event.at? ["requestContext", "http", "path"]
  (value.bind Json.str?).getD "/"

/-- The texts in a list, in order. -/
def texts (v : Json) : List String := (v.arr?.getD []).filterMap Json.str?

/-- The names and texts of a table that has a list under each name. -/
def listed (table : Fields Json) : List (String × String) :=
  table.flatMap fun (name, v) => (texts v).map (name, ·)

/-- The names and texts of a table that has a single text under each name. -/
def singles (table : Fields Json) : List (String × String) :=
  table.filterMap fun (name, v) => v.str?.map (name, ·)

/-- The query parameters of the event. Texts in lists are added one after the other, and single texts
are set, each in place of what its parameter had. -/
def withQuery (event : Json) (r : Request) : Request :=
  match (event.field? "multiValueQueryStringParameters").bind Json.obj? with
  | some table => (listed table).foldl (fun r (name, value) => r.addQuery name value) r
  | none =>
    match (event.field? "queryStringParameters").bind Json.obj? with
    | some table => (singles table).foldl (fun r (name, value) => r.putQuery name value) r
    | none => r

/-- The names and texts of a field `many`, which has a list under each name, or else of a field
`one`, which has a single text. -/
def settings (event : Json) (many one : String) : List (String × String) :=
  match (event.field? many).bind Json.obj? with
  | some table => listed table
  | none =>
    match (event.field? one).bind Json.obj? with
    | some table => singles table
    | none => []

/-- Add a header, or skip it if its name or value is none in HTTP. -/
def addHeader (r : Request) (name value : String) : Logged Request :=
  match Http.HeaderName.parse? name, Http.HeaderValue.ofText? value with
  | some name, some value => return r.addHeader name value
  | _, _ => do
    Log.warn s!"Skipping invalid header {name}: {Text.quoted value}"
    return r

/-- The headers of the event. -/
def withHeaders (event : Json) (r : Request) : Logged Request :=
  (settings event "multiValueHeaders" "headers").foldlM
    (fun r (name, value) => addHeader r name value) r

/-- The body of the event, which may be in Base64. -/
def body (event : Json) : Except Failure Bytes :=
  match (event.field? "body").bind Json.str? with
  | none => .ok []
  | some text =>
    if ((event.field? "isBase64Encoded").bind Json.bool?).getD false then
      (Base64.decode (Bytes.ofText text)).mapError fun fault =>
        .badRequest s!"Invalid base64 body: {fault.message}"
    else .ok (Bytes.ofText text)

/-- The request of an event; one without a usable method or body is refused. -/
def toRequest (event : Json) : Logged (Except Failure Request) :=
  match method event with
  | .error failure => return .error failure
  | .ok method => do
    let request ← withHeaders event (withQuery event { method := method, path := path event })
    return (body event).map request.withBody

end InvocationBridge.GatewayEvent
