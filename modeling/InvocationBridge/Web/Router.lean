import InvocationBridge.Web.Application

/-!
Routers: applications that are tables of routes and error handlers.
-/

namespace InvocationBridge

/-- Code that answers a request. What it did to the response stays, however it ends. -/
abbrev Handler (σ : Type) :=
  Request → PathParameters → Response → Effect σ (Ending Unit × Response)

/-- Code that may change a failure. -/
abbrev ErrorHandler (σ : Type) := Failure → Request → Effect σ (Except Panic Failure)

structure Route (σ : Type) where
  method : Http.Method
  pattern : Path.Pattern
  handler : Handler σ

/-- One thing that a configuration brings to a router. -/
inductive Registration (σ : Type) where
  | route (route : Route σ)
  | errorHandler (handler : ErrorHandler σ)

/-- What an application wants from its router, in order. -/
abbrev Configuration (σ : Type) := List (Registration σ)

def Registration.on {σ : Type} (method : Http.Method) (pattern : String) (handler : Handler σ) :
    Registration σ :=
  .route ⟨method, Path.Pattern.parse pattern, handler⟩

/-- Routes are tried in order, and error handlers run in order. -/
structure Router (σ : Type) where
  routes : List (Route σ) := []
  errorHandlers : List (ErrorHandler σ) := []

/-- A handler with the parameters of the path it was found for. -/
structure RouteMatch (σ : Type) where
  handler : Handler σ
  parameters : PathParameters

namespace Router

variable {σ : Type}

def register (router : Router σ) : Registration σ → Router σ
  | .route route => { router with routes := router.routes ++ [route] }
  | .errorHandler handler => { router with errorHandlers := router.errorHandlers ++ [handler] }

def configure (router : Router σ) (configuration : Configuration σ) : Router σ :=
  configuration.foldl register router

/-- Take a router out of the registrations so far. The second one is left to register more, and
starts empty. -/
def release (registered : Router σ) : Logged (Router σ × Router σ) := do
  let routes := registered.routes.length
  let handlers := registered.errorHandlers.length
  Log.debug s!"Router built with {routes} routes and {handlers} error handlers"
  return (registered, {})

/-- The router of some configurations. -/
def ofConfigurations (configurations : List (Configuration σ)) : Logged (Router σ) := do
  return (← release (configurations.foldl configure {})).1

/-- The first route for a method and path. -/
def find? (router : Router σ) (method : Http.Method) (path : String) : Option (RouteMatch σ) :=
  router.routes.findSome? fun route =>
    if route.method = method then
      (route.pattern.match? path).map fun parameters => ⟨route.handler, parameters⟩
    else none

/-- The handler for a method and path. A path that is served for other methods only is unknown. -/
def find (router : Router σ) (method : Http.Method) (path : String) :
    Except Failure (RouteMatch σ) :=
  match router.find? method path with
  | some found => .ok found
  | none => .error (.noRoute method path)

/-- Run error handlers, each on what the one before made of the failure. -/
def amendWith : List (ErrorHandler σ) → Failure → Request → Effect σ (Except Panic Failure)
  | [], failure, _ => pure (.ok failure)
  | handler :: rest, failure, request => do
    match ← handler failure request with
    | .ok failure => amendWith rest failure request
    | .error panic => return .error panic

def amend (router : Router σ) : Failure → Request → Effect σ (Except Panic Failure) :=
  amendWith router.errorHandlers

/-- The router as an application. -/
def application (router : Router σ) : Application σ (RouteMatch σ) where
  find method path := pure <|
    match router.find method path with
    | .ok found => .returned found
    | .error failure => .failed failure
  run found request response := found.handler request found.parameters response
  amend := router.amend

end Router

end InvocationBridge
