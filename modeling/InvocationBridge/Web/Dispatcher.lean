import InvocationBridge.Web.Application

/-!
Dispatchers: they start an application once, and run requests through it until they are stopped.

Whatever goes wrong on the way of a request is recorded on its response.
-/

namespace InvocationBridge

/-- A dispatcher in one of its states. -/
inductive Dispatcher (σ H : Type) where
  /-- The application starts with the first request. -/
  | dormant (launch : Effect σ (Except Panic (Application σ H)))
  | ready (application : Application σ H)
  /-- The application panicked as it started. -/
  | failed (message : String)
  | stopped

namespace Dispatcher

variable {σ H : Type}

/-- What using a stopped dispatcher comes to. -/
def usedAfterStop : Panic := .text "ProxyDispatcher used after stop. It's a bug."

def startFailure (message : String) : Failure :=
  .failed s!"The handler context failed to start: {message}" none

/-- The application, which starts now if it has not before. -/
def engage : Dispatcher σ H → Effect σ (Ending (Application σ H) × Dispatcher σ H)
  | dormant launch => do
    Log.info "Bootstrapping the handler context"
    match ← launch with
    | .ok application => return (.returned application, ready application)
    | .error panic =>
      Log.error s!"Handler context bootstrap failed: {panic.message}"
      return (.failed (startFailure panic.message), failed panic.message)
  | ready application => return (.returned application, ready application)
  | failed message => return (.failed (startFailure message), failed message)
  | stopped => return (.panicked usedAfterStop, stopped)

/-- Start the application ahead of the first request. -/
def prepare (d : Dispatcher σ H) : Effect σ (Ending Unit × Dispatcher σ H) := do
  match ← d.engage with
  | (.returned _, d) => return (.returned (), d)
  | (.failed failure, d) => return (.failed failure, d)
  | (.panicked panic, d) => return (.panicked panic, d)

/-- Put a failure on the response. Its message becomes the body if there is none. -/
def report (request : Request) (response : Response) (failure : Failure) : Logged Response := do
  Log.info
    s!"{request.method.name} {request.path} failed with {failure.status.text}: {failure.message}"
  let (recorded, response) ← response.failWith failure
  if recorded && response.body.isEmpty then
    return response.write (Bytes.ofText failure.message)
  else return response

/-- Find the handler and run it. -/
def attempt (application : Application σ H) (request : Request) (response : Response) :
    Effect σ (Ending Unit × Response) := do
  match ← application.find request.method request.path with
  | .returned handler => application.run handler request response
  | .failed failure => return (.failed failure, response)
  | .panicked panic => return (.panicked panic, response)

/-- The failure in how a handler ended. A bad request is one that never reached a handler, so here
it counts as any other failure. -/
def failureOf? : Ending Unit → Option Failure
  | .returned () => none
  | .failed (.badRequest message) => some (.failed message none)
  | .failed failure => some failure
  | .panicked panic => some (.failed panic.message none)

/-- Run a request through a running application. Only an error handler can make this panic. -/
def run (application : Application σ H) (request : Request) (response : Response) :
    Effect σ (Except Panic Unit × Response) := do
  Log.debug s!"Servicing {request.method.name} {request.path}"
  let (ending, response) ← attempt application request response
  match failureOf? ending with
  | none => return (.ok (), response)
  | some failure =>
    match ← application.amend failure request with
    | .error panic => return (.error panic, response)
    | .ok failure => return (.ok (), ← report request response failure)

/-- How serving a request ended, with the response and the dispatcher after it. -/
structure Served (σ H : Type) where
  ending : Except Panic Unit
  response : Response
  dispatcher : Dispatcher σ H

/-- Serve a request. -/
def serve (d : Dispatcher σ H) (request : Request) (response : Response) :
    Effect σ (Served σ H) := do
  match ← d.engage with
  | (.returned application, d) =>
    let (ending, response) ← run application request response
    return ⟨ending, response, d⟩
  | (.failed failure, d) => return ⟨.ok (), ← report request response failure, d⟩
  | (.panicked panic, d) => return ⟨.error panic, response, d⟩

/-- Let go of the application for good. -/
def stop : Dispatcher σ H → Logged (Dispatcher σ H)
  | stopped => do
    Log.warn "The dispatcher is already stopped"
    return stopped
  | _ => do
    Log.info "Dispatcher stopped"
    return stopped

end Dispatcher

end InvocationBridge
