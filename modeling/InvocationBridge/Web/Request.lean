import InvocationBridge.Effect.Log
import InvocationBridge.Http.Header
import InvocationBridge.Text.Quoted
import InvocationBridge.Web.Path

/-!
HTTP requests that were never on the wire.
-/

namespace InvocationBridge

structure Request where
  method : Http.Method
  path : String
  query : Fields (List String) := []
  headers : Http.Headers := .empty
  body : Bytes := []

namespace Request

/-- The segments of the path that are not empty. -/
def segments (r : Request) : List String := Path.segments r.path

def queryValues (r : Request) (name : String) : List String :=
  (r.query.get? name).getD []

/-- The first value of a query parameter. -/
def query? (r : Request) (name : String) : Option String := (r.queryValues name).head?

/-- Replace all values of a query parameter by one. -/
def putQuery (r : Request) (name value : String) : Request :=
  { r with query := r.query.insert name [value] }

/-- Add a value after those that a query parameter has. -/
def addQuery (r : Request) (name value : String) : Request :=
  { r with query := r.query.insert name (r.queryValues name ++ [value]) }

def putHeader (r : Request) (name : Http.HeaderName) (value : Http.HeaderValue) : Request :=
  { r with headers := r.headers.set name value }

def addHeader (r : Request) (name : Http.HeaderName) (value : Http.HeaderValue) : Request :=
  { r with headers := r.headers.add name value }

/-- The first value of a header, if it can be shown. -/
def header? (r : Request) (name : String) : Option String := r.headers.text? name

/-- Set the content type. A text that is no header value is dropped. -/
def withContentType (r : Request) (text : String) : Logged Request :=
  match Http.HeaderValue.ofText? text with
  | some value => return r.putHeader .contentType value
  | none => do
    Log.warn s!"Invalid content type {Text.quoted text}: {Http.HeaderValue.invalidMessage}"
    return r

def contentType? (r : Request) : Option String := r.header? Http.HeaderName.contentType.text

def withBody (r : Request) (body : Bytes) : Request := { r with body := body }

end Request

end InvocationBridge
