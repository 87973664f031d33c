import InvocationBridge.PetStore.Pet
import InvocationBridge.Text.Numeral
import InvocationBridge.Uuid
import InvocationBridge.Web.Router

/-!
The pet store: a sample application.
-/

namespace InvocationBridge.PetStore

def breeds : List String :=
  ["Afghan Hound", "Beagle", "Bernese Mountain Dog", "Bloodhound", "Dalmatian",
    "Jack Russell Terrier", "Norwegian Elkhound", "Whippet"]

def names : List String :=
  ["Bailey", "Bella", "Max", "Lucy", "Charlie", "Molly", "Buddy", "Daisy", "Rocky", "Maggie",
    "Jake", "Sophie"]

/-- How many pets are listed when no limit is given. -/
def usualPage : Nat := 10

/-- No more pets than this are listed. -/
def largestPage : Nat := 100

/-- The header that tells the event route what kind of event it was given. -/
def kindHeader : Http.HeaderName := ⟨"x-event-kind", by decide⟩

/-- A made-up pet; the seed decides on breed and name. -/
def madeUp (id : String) (seed : Nat) : Pet where
  id := id
  breed := breeds.getD (seed % breeds.length) ""
  name := names.getD (seed % names.length) ""

abbrev Action := Effect RandomSource (Ending Unit × Response)

/-- Answer with a JSON value. -/
def respond (response : Response) (value : Json) : Ending Unit × Response :=
  (.returned (), (response.putHeader .contentType .json).write value.bytes)

/-- A new random identifier. -/
def newId : Effect RandomSource String := do
  return (Uuid.ofRandom (← RandomSource.draw 16)).toString

/-- Made-up pets with the given seeds. -/
def samples : List Nat → Effect RandomSource (List Pet)
  | [] => return []
  | seed :: seeds => do
    let pet := madeUp (← newId) seed
    return pet :: (← samples seeds)

/-- How many pets a request wants to see. -/
def pageSize (request : Request) : Except Failure Nat :=
  match request.query? "limit" with
  | none => .ok usualPage
  | some limit =>
    match Numeral.parse? UInt64.size limit.toList with
    | none => .error (.failed s!"Invalid limit: {limit}" none)
    | some n => .ok (min n largestPage)

def browse : Handler RandomSource := fun request _ response =>
  match pageSize request with
  | .error failure => return (.failed failure, response)
  | .ok limit => do
    Log.debug s!"Listing {limit} pets"
    let pets ← samples (List.range limit)
    return respond response (.arr (pets.map Pet.toJson))

/-- Every identifier belongs to a pet, whose breed and name follow from its first octet. -/
def visit : Handler RandomSource := fun _ parameters response => do
  match (parameters.get? "id").bind Uuid.parse? with
  | none => return (.failed (.notFound "No such Dog"), response)
  | some id =>
    return respond response (madeUp id.toString (id.octets.headD 0).toNat).toJson

/-- Nothing is stored; the pet comes back, with an identifier if it had none. -/
def welcome : Handler RandomSource := fun request _ response =>
  match Pet.parse request.body with
  | .error e => return (.failed (.ofJsonError e), response)
  | .ok pet => do
    let id ← if pet.id.isEmpty then newId else pure pet.id
    let pet := { pet with id := id }
    Log.info s!"New pet: {pet.name} ({pet.id})"
    return respond response pet.toJson

/-- How many records an event has. -/
def recordCount (event : Json) : Nat :=
  match (event.field? Message.recordsHeader).bind Json.arr? with
  | some records => records.length
  | none => 0

/-- Count the records of an event that is no HTTP request. -/
def tally : Handler RandomSource := fun request _ response => do
  let kind := (request.header? kindHeader.text).getD "unknown"
  match Json.parse request.body with
  | .error e => return (.failed (.ofJsonError e), response)
  | .ok event =>
    let records := recordCount event
    if records = 0 then
      return (.failed (.notFound s!"No records in the {kind} event"), response)
    else do
      Log.info s!"{kind} event with {records} records"
      return respond response (.obj [("kind", .str kind), ("records", .ofNat records)])

def denyAccess : Handler RandomSource := fun _ _ response =>
  return (.failed (.accessDenied "Can't touch this"), response)

def routes : Configuration RandomSource :=
  [.on .get "/pets" browse, .on .get "/pets/\x7bid\x7d" visit, .on .post "/pets" welcome,
    .on .post "/events" tally, .on .get "/foo" denyAccess]

/-- Name the path when nothing is there. -/
def reportUnknownPath : ErrorHandler RandomSource := fun failure request =>
  match failure with
  | .noRoute method path => do
    Log.debug s!"No route for {method.name} {path}"
    return .ok (.notFound s!"Nothing here: {request.path}")
  | failure => return .ok failure

def errors : Configuration RandomSource := [.errorHandler reportUnknownPath]

def router : Logged (Router RandomSource) := Router.ofConfigurations [routes, errors]

/-- The start of the pet store. -/
def launch :
    Effect RandomSource (Except Panic (Application RandomSource (RouteMatch RandomSource))) := do
  return .ok (← router).application

end InvocationBridge.PetStore
