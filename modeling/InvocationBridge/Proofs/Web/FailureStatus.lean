import InvocationBridge.Proofs.Web.Recovery

/-!
The statuses that go on record while a request is served.

Bad requests are for payloads that make no request at all, so that no failure gets to the error
handlers as one. What the last error handler returns is not looked at again, and a bad request from
there is the only way to a status other than 403, 404 and 500.
-/

namespace InvocationBridge

namespace Failure

/-- A failure on the way of a request: anything but a bad request. -/
def IsProper (failure : Failure) : Prop := ∀ message, failure ≠ .badRequest message

/-- A failure is a bad request or a proper one. -/
theorem isProper_or_badRequest (failure : Failure) :
    failure.IsProper ∨ ∃ message, failure = .badRequest message := by
  cases failure with
  | badRequest message => exact .inr ⟨message, rfl⟩
  | _ => exact .inl nofun

theorem status_eq_badRequest_iff (failure : Failure) :
    failure.status = .badRequest ↔ ∃ message, failure = .badRequest message := by
  cases failure <;> simp [status, Http.Status.badRequest, Http.Status.forbidden,
    Http.Status.notFound, Http.Status.internalServerError]

/-- Proper failures have one of the three other statuses. -/
theorem status_mem_iff (failure : Failure) :
    failure.status ∈ [.forbidden, .notFound, .internalServerError] ↔ failure.IsProper := by
  cases failure <;> simp [status, IsProper, Http.Status.badRequest, Http.Status.forbidden,
    Http.Status.notFound, Http.Status.internalServerError]

end Failure

namespace Router

variable {σ : Type}

/-- An error handler that makes a bad request of a failure that was none. -/
def Spoils (handler : ErrorHandler σ) (request : Request) : Prop :=
  ∃ failure s message s', failure.IsProper ∧
    (handler failure request).result s = (.ok (.badRequest message), s')

/-- Error handlers amend a failure in turn, each from what the one before made of it. -/
theorem result_amendWith_cons_eq_ok_iff (handler : ErrorHandler σ) (rest : List (ErrorHandler σ))
    (raised amended : Failure) (request : Request) (s s' : σ) :
    (amendWith (handler :: rest) raised request).result s = (.ok amended, s') ↔
      ∃ next s₁, (handler raised request).result s = (.ok next, s₁) ∧
        (amendWith rest next request).result s₁ = (.ok amended, s') := by
  obtain ⟨handled, s₁, hHandler⟩ :
      ∃ handled s₁, (handler raised request).result s = (handled, s₁) := ⟨_, _, rfl⟩
  cases handled with
  | error panic => simp [amendWith, hHandler]
  | ok next =>
      simp only [amendWith, Effect.result_bind, hHandler]
      constructor
      · intro hRest
        exact ⟨next, s₁, rfl, hRest⟩
      · rintro ⟨_, _, hSame, hRest⟩
        cases hSame
        exact hRest

/-- Error handlers of which none spoils a failure do not spoil it one after the other either. -/
theorem isProper_of_amendWith {handlers : List (ErrorHandler σ)} {request : Request}
    (hKeeps : ∀ handler ∈ handlers, ¬ Spoils handler request) {raised amended : Failure} {s s' : σ}
    (hRaised : raised.IsProper)
    (hAmend : (amendWith handlers raised request).result s = (.ok amended, s')) :
    amended.IsProper := by
  induction handlers generalizing raised s with
  | nil =>
      obtain ⟨rfl, -⟩ := by simpa [amendWith] using hAmend
      exact hRaised
  | cons handler rest ih =>
      obtain ⟨hFirst, hRest⟩ := List.forall_mem_cons.mp hKeeps
      obtain ⟨next, s₁, hHandler, hLater⟩ := (result_amendWith_cons_eq_ok_iff ..).mp hAmend
      have hNext : next.IsProper := by
        rcases next.isProper_or_badRequest with hProper | ⟨message, rfl⟩
        · exact hProper
        · exact absurd ⟨raised, s, message, s₁, hRaised, hHandler⟩ hFirst
      exact ih hRest hNext hLater

end Router

namespace Dispatcher

variable {σ H : Type}

/-- A dispatcher engages one application, and in one way. -/
theorem Engages.unique {d : Dispatcher σ H} {app app' : Application σ H} {s s₁ s₁' : σ}
    (h : d.Engages s app s₁) (h' : d.Engages s app' s₁') : app' = app ∧ s₁' = s₁ := by
  have hResult := (result_engage_of_engages h').symm.trans (result_engage_of_engages h)
  simp only [Prod.mk.injEq, Ending.returned.injEq] at hResult
  exact ⟨hResult.1.1, hResult.2⟩

/-- A dispatcher cannot both engage an application and fail to start it. -/
theorem Engages.not_startFails {d : Dispatcher σ H} {app : Application σ H} {message : String}
    {s s₁ s₁' : σ} (h : d.Engages s app s₁) : ¬ d.StartFails s message s₁' := by
  intro hStart
  have hResult := (result_engage_of_startFails hStart).symm.trans (result_engage_of_engages h)
  simp at hResult

/-- A failure that serving itself put on record, since nothing was on record when it came. -/
def Records (d : Dispatcher σ H) (request : Request) (response : Response) (s : σ)
    (record : FailureRecord) : Prop :=
  ∃ left failure, d.Fails request response s left failure ∧ left.failure = none ∧
    record = failure.record

/-- Error handlers that make a bad request of the failure of the request, one after the other. -/
def ErrorHandlersSpoil (d : Dispatcher σ H) (request : Request) (response : Response) (s : σ) :
    Prop :=
  ∃ app ending left raised message s₁ s₂ s₃, d.Engages s app s₁ ∧
    app.Attempts request response s₁ ending left s₂ ∧ Caught ending raised ∧
    (app.amend raised request).result s₂ = (.ok (.badRequest message), s₃)

/-- A dispatcher of a router, which runs already or is yet to start. -/
def IsRouted (d : Dispatcher σ (RouteMatch σ)) : Prop :=
  ∀ s app s₁, d.Engages s app s₁ → ∃ router : Router σ, app = router.application

/-- A bad request gets onto a response only through the error handlers, since those that a handler
raises are caught before. -/
theorem exists_badRequest_iff_errorHandlersSpoil {d : Dispatcher σ H} {request : Request}
    {response left : Response} {failure : Failure} {s : σ}
    (h : d.Fails request response s left failure) :
    (∃ message, failure = .badRequest message) ↔ d.ErrorHandlersSpoil request response s := by
  constructor
  · rintro ⟨message, rfl⟩
    generalize hFailure : Failure.badRequest message = failure at h
    cases h with
    | start => cases hFailure
    | handling hEngages hAttempts hCaught hAmend =>
        subst hFailure
        exact ⟨_, _, _, _, message, _, _, _, hEngages, hAttempts, hCaught, hAmend⟩
  · rintro ⟨app, ending, left, raised, message, s₁, s₂, s₃, hEngages, hAttempts, hCaught, hAmend⟩
    -- There is one run of the application only, so this is what the failure came from.
    cases h with
    | start hStart => exact absurd hStart hEngages.not_startFails
    | handling hEngages' hAttempts' hCaught' hAmend' =>
        obtain ⟨rfl, rfl⟩ := hEngages.unique hEngages'
        have hAttempt := (result_attempt_iff ..).mpr hAttempts
        rw [(result_attempt_iff ..).mpr hAttempts'] at hAttempt
        obtain ⟨⟨rfl, rfl⟩, rfl⟩ := by simpa using hAttempt
        have hEnded := (failureOf?_eq_some_iff ..).mpr hCaught
        rw [(failureOf?_eq_some_iff ..).mpr hCaught'] at hEnded
        obtain rfl := Option.some.inj hEnded
        rw [hAmend'] at hAmend
        exact ⟨message, Except.ok.inj (Prod.mk.inj hAmend).1⟩

/-- If the error handlers of a router spoil a failure together, then one of them does so by
itself. It may do so for another failure than the one that was raised. -/
theorem exists_spoils_of_errorHandlersSpoil {d : Dispatcher σ (RouteMatch σ)}
    (hRouted : d.IsRouted) {request : Request} {response : Response} {s : σ}
    (h : d.ErrorHandlersSpoil request response s) :
    ∃ (router : Router σ) (s₁ : σ) (handler : ErrorHandler σ),
      d.Engages s router.application s₁ ∧ handler ∈ router.errorHandlers ∧
      Router.Spoils handler request := by
  obtain ⟨app, ending, left, raised, message, s₁, s₂, s₃, hEngages, -, hCaught, hAmend⟩ := h
  obtain ⟨router, rfl⟩ := hRouted _ _ _ hEngages
  refine Classical.byContradiction fun hNone => ?_
  have hKeeps : ∀ handler ∈ router.errorHandlers, ¬ Router.Spoils handler request :=
    fun handler hMem hSpoils => hNone ⟨router, s₁, handler, hEngages, hMem, hSpoils⟩
  exact Router.isProper_of_amendWith hKeeps hCaught.ne_badRequest hAmend message rfl

/-- A failure on the response that was not there before comes from the handler or from serving
itself. -/
theorem records_or_left {d : Dispatcher σ H} {request : Request} {response : Response} {s : σ}
    {record : FailureRecord} (hClean : response.failure = none)
    (hEnding : ((d.serve request response).result s).1.ending = .ok ())
    (hRecord : ((d.serve request response).result s).1.response.failure = some record) :
    d.Records request response s record ∨
      ∃ app s₁ ending left s₂, d.Engages s app s₁ ∧
        app.Attempts request response s₁ ending left s₂ ∧ left.failure = some record := by
  obtain ⟨served, s', hServe⟩ :
      ∃ served s', (d.serve request response).result s = (served, s') := ⟨_, _, rfl⟩
  rw [hServe] at hEnding hRecord
  rcases attempts_or_fails hServe hEnding with
    ⟨app, s₁, hEngages, hAttempts⟩ | ⟨left, failure, hFails, hFailure⟩
  · exact .inr ⟨app, s₁, _, _, _, hEngages, hAttempts, hRecord⟩
  · rw [hRecord] at hFailure
    cases hLeft : left.failure with
    | none => exact .inl ⟨left, failure, hFails, hLeft, by simpa [hLeft] using hFailure⟩
    | some first =>
        obtain rfl : record = first := by simpa [hLeft] using hFailure
        cases hFails with
        | start => exact absurd hLeft (by simp [hClean])
        | handling hEngages hAttempts =>
            exact .inr ⟨_, _, _, _, _, hEngages, hAttempts, hLeft⟩

/-- Serving a request puts the statuses 403, 404 and 500 on record by itself, with one exception: a
bad request that the error handlers of the router made of another failure. -/
theorem serve_records_iff {d : Dispatcher σ (RouteMatch σ)} (hRouted : d.IsRouted)
    (request : Request) {response : Response} (hClean : response.failure = none) (s : σ) :
    (∀ record, d.Records request response s record →
      ((d.serve request response).result s).1.ending = .ok () ∧
      ((d.serve request response).result s).1.response.failure = some record ∧
      (record.status ∈ [.forbidden, .notFound, .internalServerError] ↔
        ¬ d.ErrorHandlersSpoil request response s) ∧
      (record.status = .badRequest ↔ d.ErrorHandlersSpoil request response s)) ∧
    (d.ErrorHandlersSpoil request response s →
      ∃ (router : Router σ) (s₁ : σ) (handler : ErrorHandler σ),
        d.Engages s router.application s₁ ∧ handler ∈ router.errorHandlers ∧
        Router.Spoils handler request) ∧
    ∀ record, ((d.serve request response).result s).1.ending = .ok () →
      ((d.serve request response).result s).1.response.failure = some record →
      d.Records request response s record ∨
        ∃ app s₁ ending left s₂, d.Engages s app s₁ ∧
          app.Attempts request response s₁ ending left s₂ ∧ left.failure = some record := by
  refine ⟨?_, exists_spoils_of_errorHandlersSpoil hRouted, fun record => records_or_left hClean⟩
  rintro record ⟨left, failure, hFails, hUnrecorded, rfl⟩
  obtain ⟨hEnding, hResponse⟩ := serve_of_fails hFails
  have hSpoil := exists_badRequest_iff_errorHandlersSpoil hFails
  refine ⟨hEnding, ?_, ?_, ?_⟩
  · rw [hResponse, Response.failure_settled, hUnrecorded, Option.getD_none]
  · rw [← hSpoil]
    exact failure.status_mem_iff.trans not_exists.symm
  · rw [← hSpoil]
    exact failure.status_eq_badRequest_iff

/-- A router whose only handler finds its request bad, and whose first error handler does so with
every failure. -/
def fussy (after : List (ErrorHandler Unit)) : Router Unit where
  routes := [⟨.get, Path.Pattern.parse "/x",
    fun _ _ response => pure (.failed (.badRequest "nope"), response)⟩]
  errorHandlers := (fun failure _ => pure (.ok (.badRequest failure.message))) :: after

theorem isRouted_ready (router : Router σ) : (ready router.application).IsRouted := by
  intro s app s₁ hEngages
  cases hEngages with
  | running => exact ⟨router, rfl⟩

theorem records_fussy (after : List (ErrorHandler Unit)) (amended : Failure)
    (hAfter : (Router.amendWith after (.badRequest "nope")
      { method := .get, path := "/x" }).result () = (.ok amended, ())) :
    (ready (fussy after).application).Records { method := .get, path := "/x" } {} ()
      amended.record :=
  ⟨{}, amended, .handling (.running ..) (.ran rfl rfl) (.badRequest "nope")
    ((Router.result_amendWith_cons_eq_ok_iff ..).mpr ⟨_, _, rfl, hAfter⟩), rfl, rfl⟩

/-- An error handler that calls every failure unknown. -/
def unknown : ErrorHandler Unit := fun failure _ => pure (.ok (.notFound failure.message))

theorem serve_fussy_unknown :
    (ready (fussy [unknown]).application).IsRouted ∧ ({} : Response).failure = none ∧
    (ready (fussy [unknown]).application).Records { method := .get, path := "/x" } {} ()
      ⟨.notFound, "nope", none⟩ ∧
    ¬ (ready (fussy [unknown]).application).ErrorHandlersSpoil { method := .get, path := "/x" } {}
      () := by
  have hRouted := isRouted_ready (fussy [unknown])
  have hRecords := records_fussy [unknown] (.notFound "nope") rfl
  have hStatus := (Failure.status_mem_iff (.notFound "nope")).mpr nofun
  exact ⟨hRouted, rfl, hRecords,
    ((serve_records_iff hRouted _ rfl ()).1 _ hRecords).2.2.1.mp hStatus⟩

/-- Not every failure that serving puts on record by itself has one of the three statuses. -/
theorem exists_records_badRequest : ¬ ∀ (d : Dispatcher Unit (RouteMatch Unit)) (request : Request)
    (response : Response) (record : FailureRecord), d.IsRouted → d ≠ stopped →
      response.failure = none → d.Records request response () record →
      record.status ∈ [.forbidden, .notFound, .internalServerError] := by
  intro h
  have hRecords := records_fussy [] (.badRequest "nope") rfl
  have hStatus := h _ _ _ _ (isRouted_ready _) (by simp) rfl hRecords
  exact (Failure.status_mem_iff (.badRequest "nope")).mp hStatus "nope" rfl

end Dispatcher

end InvocationBridge
