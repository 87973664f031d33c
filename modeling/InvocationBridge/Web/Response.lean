import InvocationBridge.Effect.Basic
import InvocationBridge.Http.Header
import InvocationBridge.Message.Basic
import InvocationBridge.Web.Failure

/-!
HTTP responses that are collected in memory.

The body only grows. Status and headers follow the last write, until a failure is recorded: from
then on the status and the failure stay as the first failure left them.
-/

namespace InvocationBridge

/-- A failure on record. -/
structure FailureRecord where
  status : Http.Status
  message : String
  cause : Option String
  deriving DecidableEq

def Failure.record (failure : Failure) : FailureRecord :=
  ⟨failure.status, failure.message, failure.source⟩

structure Response where
  status : Http.Status := .ok
  headers : Http.Headers := .empty
  body : Bytes := []
  failure : Option FailureRecord := none
  status_of_failure : ∀ record, failure = some record → status = record.status := by
    intro record hRecord
    cases hRecord

namespace Response

/-- Set the status, unless the response has failed. -/
def withStatus (r : Response) (status : Http.Status) : Logged Response :=
  match hFailure : r.failure with
  | none => return { r with status := status, status_of_failure := by simp [hFailure] }
  | some _ => do
    Log.debug s!"Status {status.text} ignored, the response already failed with {r.status.text}"
    return r

def putHeader (r : Response) (name : Http.HeaderName) (value : Http.HeaderValue) : Response :=
  { r with headers := r.headers.set name value }

def addHeader (r : Response) (name : Http.HeaderName) (value : Http.HeaderValue) : Response :=
  { r with headers := r.headers.add name value }

/-- The first value of a header, if it can be shown. -/
def header? (r : Response) (name : String) : Option String := r.headers.text? name

/-- Set the content type. It is given in the code of a handler, so a text that cannot be shown is a
mistake there. -/
def withContentType (r : Response) (text : String) : Except Panic Response :=
  let octets := Bytes.ofText text
  match Http.HeaderValue.parse? octets with
  | some value =>
    if octets.all Http.isPlainOctet then .ok (r.putHeader .contentType value)
    else .error invalid
  | none => .error invalid
where
  invalid : Panic := .text "HeaderValue::from_static with invalid bytes"

/-- Add octets to the body. -/
def write (r : Response) (octets : Bytes) : Response := { r with body := r.body ++ octets }

/-- Record a failure. The first one stays; the result tells whether this was it. -/
def fail (r : Response) (record : FailureRecord) : Logged (Bool × Response) :=
  match r.failure with
  | none =>
    return (true, { r with
      status := record.status
      failure := some record
      status_of_failure := by simp })
  | some first => do
    Log.debug
      s!"Already failed with {first.status.text}: {first.message}. Ignoring: {record.message}"
    return (false, r)

/-- Record a failure with the given status. -/
def failAs (r : Response) (status : Http.Status) (message : String) : Logged (Bool × Response) :=
  r.fail ⟨status, message, none⟩

/-- Record a failure with the status that belongs to it. -/
def failWith (r : Response) (failure : Failure) : Logged (Bool × Response) :=
  r.fail failure.record

/-- The values of a header in one text. -/
def joinValues (values : List Http.HeaderValue) : String :=
  String.intercalate "," (values.map fun v => v.octets.textLossy)

/-- The response as a message: the body as it is, and among the headers the status. -/
def toMessage (r : Response) : Message where
  payload := .raw r.body
  headers := (r.headers.fields.mapValues fun values => Json.str (joinValues values)).insert
    Message.statusHeader (.ofNat r.status.code)

end Response

end InvocationBridge
