import InvocationBridge.Effect.Basic
import InvocationBridge.Http.Method
import InvocationBridge.Http.Status
import InvocationBridge.Json.Error

/-!
Failures on the way of a request, and the status each is reported with.
-/

namespace InvocationBridge

inductive Failure where
  /-- The caller may not do this. -/
  | accessDenied (message : String)
  /-- What was looked for does not exist. -/
  | notFound (message : String)
  /-- No route matches. -/
  | noRoute (method : Http.Method) (path : String)
  /-- The invocation could not be turned into a request at all. -/
  | badRequest (message : String)
  /-- Anything else; `source` is the text of an underlying error. -/
  | failed (message : String) (source : Option String)
  deriving DecidableEq

namespace Failure

def message : Failure → String
  | accessDenied message => message
  | notFound message => message
  | noRoute method path => s!"No handler for {method.name} {path}"
  | badRequest message => message
  | failed message _ => message

def status : Failure → Http.Status
  | accessDenied _ => .forbidden
  | notFound _ => .notFound
  | noRoute _ _ => .notFound
  | badRequest _ => .badRequest
  | failed _ _ => .internalServerError

/-- The text of the underlying error. -/
def source : Failure → Option String
  | failed _ source => source
  | _ => none

/-- A failure that wraps an error with the given text. -/
def wrap (text : String) : Failure := failed text (some text)

def ofJsonError (e : Json.Error) : Failure := wrap e.message

end Failure

/-- How a piece of application code ends. -/
inductive Ending (α : Type) where
  | returned (value : α)
  | failed (failure : Failure)
  | panicked (panic : Panic)

end InvocationBridge
