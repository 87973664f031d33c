import InvocationBridge.Proofs.Web.Serving
import InvocationBridge.Web.Router

/-!
What becomes of failures while a request is served.

Every failure on the way ends up on the response, with one exception: nothing catches an error
handler that panics.
-/

namespace InvocationBridge

/-- No error handler of the application ever panics. -/
def Application.IsCalm {σ H : Type} (app : Application σ H) : Prop :=
  ∀ failure request s panic, ((app.amend failure request).result s).1 ≠ .error panic

/-- Runs of a calm application never end in a panic. -/
theorem Application.Runs.ending_eq_ok {σ H : Type} {app : Application σ H} (hCalm : app.IsCalm)
    {request : Request} {response final : Response} {s s' : σ} {ending : Except Panic Unit}
    (h : app.Runs request response s ending final s') : ending = .ok () := by
  cases h with
  | answered => rfl
  | recovered => rfl
  | unwound hAttempts hCaught hAmend =>
      exact absurd (congrArg Prod.fst hAmend) (hCalm _ request _ _)

namespace Dispatcher

variable {σ H : Type}

/-- Every application runs to an end. There is no way to get stuck between finding a handler and
recording its failure. -/
theorem exists_runs (app : Application σ H) (request : Request) (response : Response) (s : σ) :
    ∃ ending final s', app.Runs request response s ending final s' :=
  ⟨_, _, _, (result_run_iff ..).mp rfl⟩

/-- Error handlers never see a bad request, so what they would do with one makes no difference. -/
theorem run_eq_of_amend_eq (app : Application σ H) (request : Request) (response : Response)
    {amend : Failure → Request → Effect σ (Except Panic Failure)}
    (hAgree : ∀ failure, (∀ message, failure ≠ .badRequest message) →
      amend failure request = app.amend failure request) :
    run { app with amend := amend } request response = run app request response := by
  unfold run
  congr 1
  funext _
  change (attempt app request response >>= _) = _
  congr 1
  funext ended
  obtain ⟨ending, left⟩ := ended
  cases hEnding : failureOf? ending with
  | none => simp only [hEnding]
  | some failure =>
      have hCaught := (failureOf?_eq_some_iff ending failure).mp hEnding
      simp only [hEnding, hAgree failure hCaught.ne_badRequest]

/-- The exact effect of a request on a running application. The response is the one that the
handler left, unless it ended with a failure: then what the error handlers made of that failure
settles it. -/
theorem serve_ready_iff (app : Application σ H) (request : Request) (response : Response) (s : σ) :
    (∀ final s', ((ready app).serve request response).result s =
        (⟨.ok (), final, ready app⟩, s') ↔
      app.Attempts request response s (.returned ()) final s' ∨
      ∃ ending left raised amended s₁, app.Attempts request response s ending left s₁ ∧
        Caught ending raised ∧ (app.amend raised request).result s₁ = (.ok amended, s') ∧
        final = left.settled amended) ∧
    (app.IsCalm → ∃ final s', ((ready app).serve request response).result s =
      (⟨.ok (), final, ready app⟩, s')) ∧
    ∀ amend : Failure → Request → Effect σ (Except Panic Failure),
      (∀ failure, (∀ message, failure ≠ .badRequest message) →
        amend failure request = app.amend failure request) →
      run { app with amend := amend } request response = run app request response := by
  refine ⟨fun final s' => ?_, fun hCalm => ?_, fun amend => run_eq_of_amend_eq app request response⟩
  · constructor
    · intro h
      cases (result_serve_iff ..).mp h with
      | ran hEngages hRuns =>
          cases hEngages
          cases hRuns with
          | answered hAttempts => exact .inl hAttempts
          | recovered hAttempts hCaught hAmend =>
              exact .inr ⟨_, _, _, _, _, hAttempts, hCaught, hAmend, rfl⟩
    · rintro (hAttempts | ⟨ending, left, raised, amended, s₁, hAttempts, hCaught, hAmend, rfl⟩)
      · exact (result_serve_iff ..).mpr (.ran (.running app s) (.answered hAttempts))
      · exact (result_serve_iff ..).mpr
          (.ran (.running app s) (.recovered hAttempts hCaught hAmend))
  · obtain ⟨ending, final, s', hRuns⟩ := exists_runs app request response s
    obtain rfl := hRuns.ending_eq_ok hCalm
    exact ⟨final, s', (result_serve_iff ..).mpr (.ran (.running app s) hRuns)⟩

/-- A router whose only handler writes to the response and then panics. -/
def careless : Router Unit where
  routes := [⟨.get, Path.Pattern.parse "/x",
    fun _ _ response => pure (.panicked .other, response.write [0x6F, 0x6B])⟩]

theorem serve_careless :
    ((ready careless.application).serve { method := .get, path := "/x" } {}).result () =
      (⟨.ok (), (({} : Response).write [0x6F, 0x6B]).settled (.failed "The handler panicked" none),
        ready careless.application⟩, ()) :=
  ((serve_ready_iff ..).1 _ _).mpr (.inr ⟨_, _, _, _, _, .ran rfl rfl, .panicOther, rfl, rfl⟩)

/-- An error handler that panics with `panic` on the failure of the request. -/
def ErrorHandlerPanics (d : Dispatcher σ H) (request : Request) (response : Response) (s : σ)
    (panic : Panic) : Prop :=
  ∃ app ending left raised s₁ s₂ s₃, d.Engages s app s₁ ∧
    app.Attempts request response s₁ ending left s₂ ∧ Caught ending raised ∧
    (app.amend raised request).result s₂ = (.error panic, s₃)

/-- A failure on the way of the request, as the error handlers pass it on, and the response that it
gets to. -/
inductive Fails (d : Dispatcher σ H) (request : Request) (response : Response) (s : σ) :
    Response → Failure → Prop where
  | start {message : String} {s₁ : σ} (hStart : d.StartFails s message s₁) :
      Fails d request response s response (startFailure message)
  | handling {app : Application σ H} {ending : Ending Unit} {left : Response}
      {raised amended : Failure} {s₁ s₂ s₃ : σ} (hEngages : d.Engages s app s₁)
      (hAttempts : app.Attempts request response s₁ ending left s₂)
      (hCaught : Caught ending raised)
      (hAmend : (app.amend raised request).result s₂ = (.ok amended, s₃)) :
      Fails d request response s left amended

/-- Serving ends in a panic exactly if an error handler does, and in the same one. Panics of
handlers are caught, and so are failed starts. -/
theorem ending_eq_error_iff {d : Dispatcher σ H} (hInUse : d ≠ stopped) (request : Request)
    (response : Response) (s : σ) (panic : Panic) :
    ((d.serve request response).result s).1.ending = .error panic ↔
      d.ErrorHandlerPanics request response s panic := by
  constructor
  · intro h
    obtain ⟨served, s', hServe⟩ :
        ∃ served s', (d.serve request response).result s = (served, s') := ⟨_, _, rfl⟩
    rw [hServe] at h
    cases (result_serve_iff ..).mp hServe with
    | stopped => exact absurd rfl hInUse
    | unstarted => simp at h
    | ran hEngages hRuns =>
        cases hRuns with
        | answered => simp at h
        | recovered => simp at h
        | unwound hAttempts hCaught hAmend =>
            obtain rfl := by simpa using h
            exact ⟨_, _, _, _, _, _, _, hEngages, hAttempts, hCaught, hAmend⟩
  · rintro ⟨app, ending, left, raised, s₁, s₂, s₃, hEngages, hAttempts, hCaught, hAmend⟩
    have hServes := (result_serve_iff ..).mpr
      (.ran hEngages (.unwound hAttempts hCaught hAmend))
    rw [hServes]

/-- A dispatcher in use, with no error handler that ever panics in the application that it has or
would start. -/
structure IsCalm (d : Dispatcher σ H) : Prop where
  inUse : d ≠ stopped
  application : ∀ s app s₁, d.Engages s app s₁ → app.IsCalm

theorem isCalm_ready {app : Application σ H} (h : app.IsCalm) : (ready app).IsCalm := by
  refine ⟨by simp, fun s other s₁ hEngages => ?_⟩
  cases hEngages with
  | running => exact h

/-- A calm dispatcher serves all requests without a panic. -/
theorem IsCalm.ending_serve {d : Dispatcher σ H} (hCalm : d.IsCalm) (request : Request)
    (response : Response) (s : σ) : ((d.serve request response).result s).1.ending = .ok () := by
  cases hEnding : ((d.serve request response).result s).1.ending with
  | ok => rfl
  | error panic =>
      obtain ⟨app, -, -, raised, _, s₂, _, hEngages, -, -, hAmend⟩ :=
        (ending_eq_error_iff hCalm.inUse request response s panic).mp hEnding
      have hNever := hCalm.application _ _ _ hEngages raised request s₂ panic
      exact absurd (congrArg Prod.fst hAmend) hNever

/-- The response to a request is as a handler left it that returned, or else the first failure is
on it: one that the handler recorded before it failed, or the one that it failed with. -/
theorem attempts_or_fails {d : Dispatcher σ H} {request : Request} {response : Response}
    {s s' : σ} {served : Served σ H} (hServe : (d.serve request response).result s = (served, s'))
    (hEnding : served.ending = .ok ()) :
    (∃ app s₁, d.Engages s app s₁ ∧
      app.Attempts request response s₁ (.returned ()) served.response s') ∨
    ∃ left failure, d.Fails request response s left failure ∧
      served.response.failure = some (left.failure.getD failure.record) := by
  cases (result_serve_iff ..).mp hServe with
  | stopped => cases hEnding
  | unstarted hStart => exact .inr ⟨_, _, .start hStart, Response.failure_settled ..⟩
  | ran hEngages hRuns =>
      cases hRuns with
      | answered hAttempts => exact .inl ⟨_, _, hEngages, hAttempts⟩
      | recovered hAttempts hCaught hAmend =>
          exact .inr ⟨_, _, .handling hEngages hAttempts hCaught hAmend,
            Response.failure_settled ..⟩
      | unwound => cases hEnding

/-- A failure on the way ends up on the response, and serving itself succeeds. -/
theorem serve_of_fails {d : Dispatcher σ H} {request : Request} {response left : Response}
    {failure : Failure} {s : σ} (h : d.Fails request response s left failure) :
    ((d.serve request response).result s).1.ending = .ok () ∧
      ((d.serve request response).result s).1.response = left.settled failure := by
  cases h with
  | start hStart =>
      rw [(result_serve_iff ..).mpr (.unstarted hStart)]
      exact ⟨rfl, rfl⟩
  | handling hEngages hAttempts hCaught hAmend =>
      rw [(result_serve_iff ..).mpr (.ran hEngages (.recovered hAttempts hCaught hAmend))]
      exact ⟨rfl, rfl⟩

/-- A dispatcher in use lets a panic out if and only if an error handler panics. Any other failure
on the way, panics of the start and of handlers included, is on the response at the end, unless an
earlier one was there before it. -/
theorem serve_unwinds_iff (d : Dispatcher σ H) (hInUse : d ≠ stopped) (request : Request)
    (response : Response) (s : σ) :
    (∀ panic, ((d.serve request response).result s).1.ending = .error panic ↔
      d.ErrorHandlerPanics request response s panic) ∧
    ∀ left failure, d.Fails request response s left failure →
      ((d.serve request response).result s).1.ending = .ok () ∧
      ((d.serve request response).result s).1.response.failure =
        some (left.failure.getD failure.record) := by
  refine ⟨ending_eq_error_iff hInUse request response s, fun left failure hFails => ?_⟩
  obtain ⟨hEnding, hResponse⟩ := serve_of_fails hFails
  exact ⟨hEnding, by rw [hResponse, Response.failure_settled]⟩

/-- A router whose only handler panics, and whose error handler panics after it. -/
def explosive : Router Unit where
  routes := [⟨.get, Path.Pattern.parse "/x",
    fun _ _ response => pure (.panicked (.text "handler exploded"), response)⟩]
  errorHandlers := [fun _ _ => pure (.error (.text "error handler exploded"))]

theorem serve_explosive : ready explosive.application ≠ stopped ∧
    (ready explosive.application).ErrorHandlerPanics { method := .get, path := "/x" } {} ()
      (.text "error handler exploded") :=
  have hInUse : ready explosive.application ≠ stopped := by simp
  ⟨hInUse, ((serve_unwinds_iff _ hInUse { method := .get, path := "/x" } {} ()).1 _).mp rfl⟩

/-- Not every failure is caught while a request is served. -/
theorem exists_serve_unwinds : ¬ ∀ (d : Dispatcher Unit (RouteMatch Unit)) (request : Request)
    (response : Response), d ≠ stopped →
      ((d.serve request response).result ()).1.ending = .ok () := by
  intro h
  have hEnding := h (ready explosive.application) { method := .get, path := "/x" } {} (by simp)
  cases hEnding

end Dispatcher

end InvocationBridge
