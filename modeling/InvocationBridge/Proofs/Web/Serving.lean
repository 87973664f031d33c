import InvocationBridge.Web.Dispatcher

/-!
What serving a request comes to, rule by rule.

`Serves` lists the ways a dispatcher in use can serve a request, with everything that each of them
leaves behind, and `result_serve_iff` says that these are the only ones.
-/

namespace InvocationBridge

/-- The failure that the end of a handler stands for. A bad request is no business of a handler, so
it counts as any other failure, and so does a panic. -/
inductive Caught : Ending Unit → Failure → Prop where
  | badRequest (message : String) :
      Caught (.failed (.badRequest message)) (.failed message none)
  | failure {failure : Failure} (hProper : ∀ message, failure ≠ .badRequest message) :
      Caught (.failed failure) failure
  | panicText (message : String) : Caught (.panicked (.text message)) (.failed message none)
  | panicOther : Caught (.panicked .other) (.failed "The handler panicked" none)

/-- Bad requests are caught as failures of the handler, so that they never reach the error
handlers as such. -/
theorem Caught.ne_badRequest {ending : Ending Unit} {failure : Failure}
    (h : Caught ending failure) (message : String) : failure ≠ .badRequest message := by
  cases h with
  | failure hProper => exact hProper message
  | _ => simp

theorem Dispatcher.failureOf?_eq_some_iff (ending : Ending Unit) (failure : Failure) :
    failureOf? ending = some failure ↔ Caught ending failure := by
  constructor
  · intro h
    cases ending with
    | returned value => simp [failureOf?] at h
    | panicked panic =>
        cases panic <;> obtain rfl := Option.some.inj h <;> constructor
    | failed raised =>
        cases raised <;> obtain rfl := Option.some.inj h <;> constructor <;> simp
  · intro h
    cases h with
    | failure hProper =>
        cases failure with
        | badRequest message => exact absurd rfl (hProper message)
        | _ => rfl
    | _ => rfl

theorem Dispatcher.failureOf?_eq_none_iff (ending : Ending Unit) :
    failureOf? ending = none ↔ ending = .returned () := by
  cases ending with
  | returned value => simp [failureOf?]
  | failed failure => cases failure <;> simp [failureOf?]
  | panicked panic => simp [failureOf?]

/-- Looking for a handler and running it from the state `s`: how it ended, the response as it was
left, and the state after it. Only a handler can touch the response. -/
inductive Application.Attempts {σ H : Type} (app : Application σ H) (request : Request)
    (response : Response) (s : σ) : Ending Unit → Response → σ → Prop where
  | unresolved {failure : Failure} {s₁ : σ}
      (hFind : (app.find request.method request.path).result s = (.failed failure, s₁)) :
      Attempts app request response s (.failed failure) response s₁
  | panicked {panic : Panic} {s₁ : σ}
      (hFind : (app.find request.method request.path).result s = (.panicked panic, s₁)) :
      Attempts app request response s (.panicked panic) response s₁
  | ran {handler : H} {s₁ s₂ : σ} {ending : Ending Unit} {left : Response}
      (hFind : (app.find request.method request.path).result s = (.returned handler, s₁))
      (hRun : (app.run handler request response).result s₁ = ((ending, left), s₂)) :
      Attempts app request response s ending left s₂

namespace Response

/-- The response after a failure got to it. The first failure stays for good. A new one brings its
status along, and its message where nothing was written. -/
def settled (r : Response) (failure : Failure) : Response :=
  match r.failure with
  | some _ => r
  | none =>
    { status := failure.status
      headers := r.headers
      body := if r.body = [] then Bytes.ofText failure.message else r.body
      failure := some ⟨failure.status, failure.message, failure.source⟩
      status_of_failure := by simp }

/-- Settling keeps a failure that is on record already. -/
theorem failure_settled (r : Response) (failure : Failure) :
    (r.settled failure).failure = some (r.failure.getD failure.record) := by
  unfold settled
  split
  · next hFailure => simp [hFailure]
  · next hFailure => simp [hFailure, Failure.record]

end Response

namespace Dispatcher

variable {σ H : Type}

/-- An attempt does what the relation says, and there is nothing else to it. -/
theorem result_attempt_iff (app : Application σ H) (request : Request) (response left : Response)
    (ending : Ending Unit) (s s' : σ) :
    (attempt app request response).result s = ((ending, left), s') ↔
      app.Attempts request response s ending left s' := by
  obtain ⟨found, s₁, hFind⟩ :
      ∃ found s₁, (app.find request.method request.path).result s = (found, s₁) := ⟨_, _, rfl⟩
  simp only [attempt, Effect.result_bind, hFind]
  constructor
  · intro h
    cases found with
    | returned handler => exact .ran hFind h
    | failed failure =>
        obtain ⟨⟨rfl, rfl⟩, rfl⟩ := by simpa using h
        exact .unresolved hFind
    | panicked panic =>
        obtain ⟨⟨rfl, rfl⟩, rfl⟩ := by simpa using h
        exact .panicked hFind
  · intro h
    cases h with
    | unresolved hFind' =>
        obtain ⟨rfl, rfl⟩ := by simpa [hFind] using hFind'
        rfl
    | panicked hFind' =>
        obtain ⟨rfl, rfl⟩ := by simpa [hFind] using hFind'
        rfl
    | ran hFind' hRun =>
        obtain ⟨rfl, rfl⟩ := by simpa [hFind] using hFind'
        exact hRun

/-- The application that a dispatcher runs requests through, started in the state `s` if it was
not started before. -/
inductive Engages : Dispatcher σ H → σ → Application σ H → σ → Prop where
  | running (app : Application σ H) (s : σ) : Engages (ready app) s app s
  | launched {launch : Effect σ (Except Panic (Application σ H))} {app : Application σ H}
      {s s₁ : σ} (hLaunch : launch.result s = (.ok app, s₁)) :
      Engages (dormant launch) s app s₁

/-- A start that panicked, now or before, and the text of the panic. -/
inductive StartFails : Dispatcher σ H → σ → String → σ → Prop where
  | now {launch : Effect σ (Except Panic (Application σ H))} {panic : Panic} {s s₁ : σ}
      (hLaunch : launch.result s = (.error panic, s₁)) :
      StartFails (dormant launch) s panic.message s₁
  | before (message : String) (s : σ) : StartFails (failed message) s message s

/-- The first engagement starts the application and remembers how that went. -/
theorem result_engage_dormant (launch : Effect σ (Except Panic (Application σ H))) (s : σ) :
    (dormant launch).engage.result s =
      match launch.result s with
      | (.ok app, s₁) => ((.returned app, ready app), s₁)
      | (.error panic, s₁) =>
        ((.failed (startFailure panic.message), failed panic.message), s₁) := by
  obtain ⟨launched, s₁, hLaunch⟩ : ∃ launched s₁, launch.result s = (launched, s₁) := ⟨_, _, rfl⟩
  cases launched <;> simp [engage, hLaunch]

theorem result_engage_of_engages {d : Dispatcher σ H} {app : Application σ H} {s s₁ : σ}
    (h : d.Engages s app s₁) : d.engage.result s = ((.returned app, ready app), s₁) := by
  cases h with
  | running => rfl
  | launched hLaunch => simp [result_engage_dormant, hLaunch]

theorem result_engage_of_startFails {d : Dispatcher σ H} {message : String} {s s₁ : σ}
    (h : d.StartFails s message s₁) :
    d.engage.result s = ((.failed (startFailure message), failed message), s₁) := by
  cases h with
  | before => rfl
  | now hLaunch => simp [result_engage_dormant, hLaunch]

theorem value_report (request : Request) (response : Response) (failure : Failure) :
    (report request response failure).value = response.settled failure := by
  simp only [report, Response.failWith, Response.fail, Response.settled, Logged.value_bind]
  cases hFailure : response.failure with
  | some first => simp
  | none =>
      by_cases hBody : response.body = [] <;>
        simp [hBody, Response.write, Failure.record]

end Dispatcher

/-- A request that runs through an application from the state `s`: a panic that comes out of it,
the response, and the state after it. Nothing but an error handler lets a panic out. -/
inductive Application.Runs {σ H : Type} (app : Application σ H) (request : Request)
    (response : Response) (s : σ) : Except Panic Unit → Response → σ → Prop where
  | answered {left : Response} {s₁ : σ}
      (hAttempts : app.Attempts request response s (.returned ()) left s₁) :
      Runs app request response s (.ok ()) left s₁
  | recovered {ending : Ending Unit} {left : Response} {raised amended : Failure} {s₁ s₂ : σ}
      (hAttempts : app.Attempts request response s ending left s₁) (hCaught : Caught ending raised)
      (hAmend : (app.amend raised request).result s₁ = (.ok amended, s₂)) :
      Runs app request response s (.ok ()) (left.settled amended) s₂
  | unwound {ending : Ending Unit} {left : Response} {raised : Failure} {panic : Panic}
      {s₁ s₂ : σ} (hAttempts : app.Attempts request response s ending left s₁)
      (hCaught : Caught ending raised)
      (hAmend : (app.amend raised request).result s₁ = (.error panic, s₂)) :
      Runs app request response s (.error panic) left s₂

namespace Dispatcher

variable {σ H : Type}

/-- A run does what the relation says: an attempt, and the error handlers if it failed. -/
theorem result_run_iff (app : Application σ H) (request : Request) (response final : Response)
    (ending : Except Panic Unit) (s s' : σ) :
    (run app request response).result s = ((ending, final), s') ↔
      app.Runs request response s ending final s' := by
  constructor
  · intro h
    obtain ⟨ended, left, s₁, hAttempt⟩ :
        ∃ ended left s₁, (attempt app request response).result s = ((ended, left), s₁) :=
      ⟨_, _, _, rfl⟩
    have hAttempts := (result_attempt_iff app request response left ended s s₁).mp hAttempt
    simp only [run, Effect.result_bind, Effect.result_liftM, hAttempt] at h
    split at h
    · next hEnded =>
        obtain ⟨⟨rfl, rfl⟩, rfl⟩ := by simpa using h
        exact .answered ((failureOf?_eq_none_iff ended).mp hEnded ▸ hAttempts)
    · next raised hEnded =>
        have hCaught := (failureOf?_eq_some_iff ended raised).mp hEnded
        simp only [Effect.result_bind] at h
        split at h
        · next panic hAmend =>
            obtain ⟨⟨rfl, rfl⟩, rfl⟩ := by simpa using h
            exact .unwound hAttempts hCaught (Prod.ext hAmend rfl)
        · next amended hAmend =>
            obtain ⟨⟨rfl, rfl⟩, rfl⟩ := by simpa [value_report] using h
            exact .recovered hAttempts hCaught (Prod.ext hAmend rfl)
  · intro h
    cases h with
    | answered hAttempts =>
        have hAttempt := (result_attempt_iff ..).mpr hAttempts
        simp [run, hAttempt, failureOf?]
    | recovered hAttempts hCaught hAmend =>
        have hAttempt := (result_attempt_iff ..).mpr hAttempts
        have hEnded := (failureOf?_eq_some_iff ..).mpr hCaught
        simp [run, hAttempt, hEnded, hAmend, value_report]
    | unwound hAttempts hCaught hAmend =>
        have hAttempt := (result_attempt_iff ..).mpr hAttempts
        have hEnded := (failureOf?_eq_some_iff ..).mpr hCaught
        simp [run, hAttempt, hEnded, hAmend]

theorem result_serve_of_engages {d : Dispatcher σ H} {app : Application σ H} {s s₁ : σ}
    (h : d.Engages s app s₁) (request : Request) (response : Response) :
    (d.serve request response).result s =
      let ((ending, final), s₂) := (run app request response).result s₁
      (⟨ending, final, ready app⟩, s₂) := by
  simp [serve, result_engage_of_engages h]

/-- Without one, the response is settled with the failure of the start. -/
theorem result_serve_of_startFails {d : Dispatcher σ H} {message : String} {s s₁ : σ}
    (h : d.StartFails s message s₁) (request : Request) (response : Response) :
    (d.serve request response).result s =
      (⟨.ok (), response.settled (startFailure message), failed message⟩, s₁) := by
  simp [serve, result_engage_of_startFails h, value_report]

/-- A dispatcher in use either has an application or failed to get one. -/
theorem engages_or_startFails (d : Dispatcher σ H) (hInUse : d ≠ stopped) (s : σ) :
    (∃ app s₁, d.Engages s app s₁) ∨ ∃ message s₁, d.StartFails s message s₁ := by
  cases d with
  | ready app => exact .inl ⟨app, s, .running app s⟩
  | failed message => exact .inr ⟨message, s, .before message s⟩
  | stopped => exact absurd rfl hInUse
  | dormant launch =>
      obtain ⟨launched, s₁, hLaunch⟩ : ∃ launched s₁, launch.result s = (launched, s₁) :=
        ⟨_, _, rfl⟩
      cases launched with
      | ok app => exact .inl ⟨app, s₁, .launched hLaunch⟩
      | error panic => exact .inr ⟨panic.message, s₁, .now hLaunch⟩

/-- Serving a request from the state `s`: a panic that comes out of it, the response, the dispatcher
and the state after it. The application is started or fails to, once and for all. -/
inductive Serves (request : Request) (response : Response) (s : σ) :
    Dispatcher σ H → Served σ H → σ → Prop where
  | unstarted {d : Dispatcher σ H} {message : String} {s₁ : σ}
      (hStart : d.StartFails s message s₁) :
      Serves request response s d
        ⟨.ok (), response.settled (startFailure message), failed message⟩ s₁
  | ran {d : Dispatcher σ H} {app : Application σ H} {ending : Except Panic Unit}
      {final : Response} {s₁ s₂ : σ} (hEngages : d.Engages s app s₁)
      (hRuns : app.Runs request response s₁ ending final s₂) :
      Serves request response s d ⟨ending, final, ready app⟩ s₂
  | stopped : Serves request response s stopped ⟨.error usedAfterStop, response, stopped⟩ s

/-- Serving does what the relation says. Later modules argue about the relation only. -/
theorem result_serve_iff (d : Dispatcher σ H) (request : Request) (response : Response)
    (served : Served σ H) (s s' : σ) :
    (d.serve request response).result s = (served, s') ↔ d.Serves request response s served s' := by
  constructor
  · intro h
    by_cases hInUse : d = stopped
    · subst hInUse
      obtain ⟨rfl, rfl⟩ := by simpa [serve, engage] using h
      exact .stopped
    · rcases d.engages_or_startFails hInUse s with ⟨app, s₁, hEngages⟩ | ⟨message, s₁, hStart⟩
      · rw [result_serve_of_engages hEngages] at h
        obtain ⟨rfl, rfl⟩ := Prod.ext_iff.mp h
        exact .ran hEngages ((result_run_iff ..).mp rfl)
      · rw [result_serve_of_startFails hStart] at h
        obtain ⟨rfl, rfl⟩ := Prod.ext_iff.mp h
        exact .unstarted hStart
  · intro h
    cases h with
    | stopped => rfl
    | unstarted hStart => exact result_serve_of_startFails hStart request response
    | ran hEngages hRuns =>
        rw [result_serve_of_engages hEngages, (result_run_iff ..).mpr hRuns]

/-- Requests that the application takes for one another are served alike. -/
theorem result_serve_congr {d : Dispatcher σ H} {request other : Request} {response : Response}
    {s : σ} (hRun : ∀ app s₁, d.Engages s app s₁ →
      run app other response = run app request response) :
    (d.serve other response).result s = (d.serve request response).result s := by
  by_cases hInUse : d = stopped
  · subst hInUse
    rw [(result_serve_iff ..).mpr .stopped, (result_serve_iff ..).mpr .stopped]
  · rcases d.engages_or_startFails hInUse s with ⟨app, s₁, hEngages⟩ | ⟨message, s₁, hStart⟩
    · rw [result_serve_of_engages hEngages, result_serve_of_engages hEngages, hRun app s₁ hEngages]
    · rw [result_serve_of_startFails hStart, result_serve_of_startFails hStart]

end Dispatcher

end InvocationBridge
