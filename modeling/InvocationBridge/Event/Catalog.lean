import InvocationBridge.Event.TypeName
import InvocationBridge.Json.Basic

/-!
Where an invocation comes from.

A gateway request is known by the shape of its payload, every other event by the input type that
the handler declares. The catalog lists the types that stand for a kind of event.
-/

namespace InvocationBridge

/-- The known kinds of events. -/
inductive EventKind where
  | apiGatewayV1
  | apiGatewayV2
  | objectStorage
  | notification
  | queue
  | authorizer
  | stream
  deriving DecidableEq

namespace EventKind

def all : List EventKind :=
  [apiGatewayV1, apiGatewayV2, objectStorage, notification, queue, authorizer, stream]

def name : EventKind → String
  | apiGatewayV1 => "api-gateway-v1"
  | apiGatewayV2 => "api-gateway-v2"
  | objectStorage => "object-storage"
  | notification => "notification"
  | queue => "queue"
  | authorizer => "authorizer"
  | stream => "stream"

/-- The name in log lines. -/
def label : EventKind → String
  | apiGatewayV1 => "ApiGatewayV1"
  | apiGatewayV2 => "ApiGatewayV2"
  | objectStorage => "ObjectStorage"
  | notification => "Notification"
  | queue => "Queue"
  | authorizer => "Authorizer"
  | stream => "Stream"

end EventKind

/-- What is known of an invocation from its payload and the declared input type. -/
inductive Origin where
  | gateway
  | event (kind : EventKind)
  | unclassified
  deriving DecidableEq

def Origin.label : Origin → String
  | gateway => "HttpGateway"
  | event kind => s!"TypedEvent({kind.label})"
  | unclassified => "Unclassified"

/-- Whether a payload is a gateway request: an object with `httpMethod`, or with both `routeKey` and
`version`. -/
def isGatewayRequest (payload : Json) : Bool :=
  payload.hasField "httpMethod" || (payload.hasField "routeKey" && payload.hasField "version")

/-- Kinds of events by the simple names of their types. -/
structure Catalog where
  kinds : Fields EventKind

namespace Catalog

/-- The catalog without entries. -/
def empty : Catalog := ⟨[]⟩

/-- Let a simple name stand for a kind of event, whatever it stood for before. -/
def add (name : String) (kind : EventKind) (catalog : Catalog) : Catalog :=
  ⟨catalog.kinds.insert name kind⟩

/-- The catalog of the usual event types. -/
def standard : Catalog :=
  empty
    |>.add "ApiGatewayProxyRequest" .apiGatewayV1
    |>.add "ApiGatewayV2httpRequest" .apiGatewayV2
    |>.add "S3Event" .objectStorage
    |>.add "SnsEvent" .notification
    |>.add "SqsEvent" .queue
    |>.add "ApiGatewayCustomAuthorizerRequest" .authorizer
    |>.add "KinesisEvent" .stream

/-- The kind of event that a declared type stands for. No type may be declared at all. -/
def kind? (catalog : Catalog) (declared : Option String) : Option EventKind :=
  declared.bind fun name => catalog.kinds.get? (TypeName.simple name)

/-- The origin of a payload; the gateway shape comes before the declared type. -/
def origin (catalog : Catalog) (payload : Json) (declared : Option String) : Origin :=
  if isGatewayRequest payload then .gateway
  else
    match catalog.kind? declared with
    | some kind => .event kind
    | none => .unclassified

end Catalog

end InvocationBridge
