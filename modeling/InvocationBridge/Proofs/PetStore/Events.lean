import InvocationBridge.PetStore.Routes
import InvocationBridge.Proofs.Web.Recovery

/-!
What the pet store makes of events.

It sees of an event the kind and the value that the body spells, so that the spelling itself does not
count.
-/

namespace InvocationBridge.PetStore

open Dispatcher

/-- The pet store once it has started. -/
def store : Application RandomSource (RouteMatch RandomSource) := router.value.application

theorem amend_store (failure : Failure) (request : Request) :
    store.amend failure request = Router.amendWith [reportUnknownPath] failure request := rfl

/-- The pet store is calm: its error handler never panics. -/
theorem isCalm_store : store.IsCalm := by
  intro failure request s panic
  rw [amend_store]
  cases failure <;> simp [Router.amendWith, reportUnknownPath]

/-- Requests that bring the same event, which they may spell in two ways. -/
structure Respells (request other : Request) : Prop where
  method : other.method = request.method
  path : other.path = request.path
  headers : other.headers = request.headers
  body : Json.parse other.body = Json.parse request.body

/-- The handler of events looks at nothing but what respelling keeps. -/
theorem Respells.tally_eq {request other : Request} (h : Respells request other) :
    tally other = tally request := by
  funext parameters response
  rw [tally, tally, Request.header?, Request.header?, h.headers, h.body]

/-- The error handlers of the pet store look at nothing else either. -/
theorem Respells.amend_eq {request other : Request} (h : Respells request other)
    (failure : Failure) : store.amend failure other = store.amend failure request := by
  rw [amend_store, amend_store]
  cases failure <;> simp only [Router.amendWith, reportUnknownPath, h.path]

/-- Posted to the usual path, an event gets to its handler. -/
theorem attempt_store {request : Request} (hMethod : request.method = .post)
    (hPath : request.path = "/events") (response : Response) :
    attempt store request response = tally request [] response := by
  rw [attempt, hMethod, hPath]
  rfl

/-- The answer to an event of some kind with so many records. -/
def summarized (kind : String) (records : Nat) (response : Response) : Response :=
  (response.putHeader .contentType .json).write
    (Json.obj [("kind", .str kind), ("records", .ofNat records)]).bytes

section Tallying

variable {request : Request} {kind : String} {event : Json}

/-- An event with records gets a summary for an answer. -/
theorem result_tally_of_records (hKind : request.header? kindHeader.text = some kind)
    (hParse : Json.parse request.body = .ok event) (hRecords : recordCount event ≠ 0)
    (parameters : PathParameters) (response : Response) (s : RandomSource) :
    (tally request parameters response).result s =
      ((.returned (), summarized kind (recordCount event) response), s) := by
  rw [tally, hKind, hParse]
  simp [hRecords, respond, summarized]

/-- Without records the handler fails and leaves the response alone. -/
theorem result_tally_of_no_records (hKind : request.header? kindHeader.text = some kind)
    (hParse : Json.parse request.body = .ok event) (hRecords : recordCount event = 0)
    (parameters : PathParameters) (response : Response) (s : RandomSource) :
    (tally request parameters response).result s =
      ((.failed (.notFound s!"No records in the {kind} event"), response), s) := by
  rw [tally, hKind, hParse]
  simp [hRecords]

/-- With records the handler leaves their summary. -/
theorem attempts_event (hMethod : request.method = .post) (hPath : request.path = "/events")
    (hKind : request.header? kindHeader.text = some kind)
    (hParse : Json.parse request.body = .ok event) (hRecords : recordCount event ≠ 0)
    (response : Response) (s : RandomSource) :
    store.Attempts request response s (.returned ())
      (summarized kind (recordCount event) response) s := by
  rw [← result_attempt_iff, attempt_store hMethod hPath]
  exact result_tally_of_records hKind hParse hRecords ..

end Tallying

/-- Events that are spelled in two ways are treated alike. -/
theorem Respells.run_eq {request other : Request} (h : Respells request other)
    (hMethod : request.method = .post) (hPath : request.path = "/events") (response : Response) :
    run store other response = run store request response := by
  have hReport (response : Response) (failure : Failure) :
      report other response failure = report request response failure := by
    simp only [report, h.method, h.path]
  have hAttempt : attempt store other response = attempt store request response := by
    rw [attempt_store hMethod hPath, attempt_store (h.method.trans hMethod) (h.path.trans hPath),
      h.tally_eq]
  simp only [run, h.method, h.path, hAttempt, h.amend_eq, hReport]

end InvocationBridge.PetStore
