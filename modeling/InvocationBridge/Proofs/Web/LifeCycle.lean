import InvocationBridge.Proofs.Web.Recovery

/-!
The life of a dispatcher, over any calls on it.

`Performs` lists what a single call can come to, and `performAll` makes calls one after the other.
How often the application starts is read off a tally that runs beside the state of the application:
`counting` adds to it with each start, and nothing else does.
-/

namespace InvocationBridge

namespace Effect

variable {σ α : Type}

/-- Code that leaves a tally beside its state alone. -/
def beside (m : Effect σ α) : Effect (σ × Nat) α := fun (s, tally) => do
  let (a, s) ← m s
  return (a, (s, tally))

/-- Code that adds one to a tally beside its state. -/
def tallied (m : Effect σ α) : Effect (σ × Nat) α := fun (s, tally) => m.beside (s, tally + 1)

theorem result_beside {m : Effect σ α} {s s' : σ} {a : α} (h : m.result s = (a, s'))
    (tally : Nat) : m.beside.result (s, tally) = (a, (s', tally)) := by
  have hBeside : m.beside.result (s, tally) = ((m.result s).1, ((m.result s).2, tally)) := rfl
  rw [hBeside, h]

theorem result_tallied {m : Effect σ α} {s s' : σ} {a : α} (h : m.result s = (a, s'))
    (tally : Nat) : m.tallied.result (s, tally) = (a, (s', tally + 1)) :=
  result_beside h (tally + 1)

end Effect

namespace Application

variable {σ H : Type}

/-- The application beside a tally that it leaves alone. -/
def beside (app : Application σ H) : Application (σ × Nat) H where
  find method path := (app.find method path).beside
  run handler request response := (app.run handler request response).beside
  amend failure request := (app.amend failure request).beside

/-- An application does the same with a tally beside its state. -/
theorem Attempts.beside {app : Application σ H} {request : Request} {response left : Response}
    {s s' : σ} {ending : Ending Unit} (h : app.Attempts request response s ending left s')
    (tally : Nat) : app.beside.Attempts request response (s, tally) ending left (s', tally) := by
  cases h with
  | unresolved hFind => exact .unresolved (Effect.result_beside hFind tally)
  | panicked hFind => exact .panicked (Effect.result_beside hFind tally)
  | ran hFind hRun =>
      exact .ran (Effect.result_beside hFind tally) (Effect.result_beside hRun tally)

theorem Runs.beside {app : Application σ H} {request : Request} {response final : Response}
    {s s' : σ} {ending : Except Panic Unit} (h : app.Runs request response s ending final s')
    (tally : Nat) : app.beside.Runs request response (s, tally) ending final (s', tally) := by
  cases h with
  | answered hAttempts => exact .answered (hAttempts.beside tally)
  | recovered hAttempts hCaught hAmend =>
      exact .recovered (hAttempts.beside tally) hCaught (Effect.result_beside hAmend tally)
  | unwound hAttempts hCaught hAmend =>
      exact .unwound (hAttempts.beside tally) hCaught (Effect.result_beside hAmend tally)

end Application

namespace Dispatcher

variable {σ H : Type}

/-- The dispatcher with a tally of the starts of its application. -/
def counting : Dispatcher σ H → Dispatcher (σ × Nat) H
  | dormant launch => dormant (Except.map Application.beside <$> launch.tallied)
  | ready app => ready app.beside
  | failed message => failed message
  | stopped => stopped

/-- How often the application starts as the dispatcher is used. -/
def starts : Dispatcher σ H → Nat
  | dormant _ => 1
  | _ => 0

/-- Engaging the application counts a start if it was still to be started. -/
theorem Engages.counting {d : Dispatcher σ H} {app : Application σ H} {s s₁ : σ}
    (h : d.Engages s app s₁) (tally : Nat) :
    d.counting.Engages (s, tally) app.beside (s₁, tally + d.starts) := by
  cases h with
  | running => exact .running app.beside (s, tally)
  | launched hLaunch =>
      apply Engages.launched
      rw [Effect.result_map, Effect.result_tallied hLaunch tally]
      rfl

theorem StartFails.counting {d : Dispatcher σ H} {message : String} {s s₁ : σ}
    (h : d.StartFails s message s₁) (tally : Nat) :
    d.counting.StartFails (s, tally) message (s₁, tally + d.starts) := by
  cases h with
  | before => exact .before message (s, tally)
  | now hLaunch =>
      apply StartFails.now
      rw [Effect.result_map, Effect.result_tallied hLaunch tally]
      rfl

/-- Serving a request is engaging the application first, and counts what that counts. -/
theorem Serves.counting {d : Dispatcher σ H} {request : Request} {response : Response} {s s' : σ}
    {served : Served σ H} (h : d.Serves request response s served s') (tally : Nat) :
    d.counting.Serves request response (s, tally)
      ⟨served.ending, served.response, served.dispatcher.counting⟩ (s', tally + d.starts) := by
  cases h with
  | unstarted hStart => exact .unstarted (hStart.counting tally)
  | ran hEngages hRuns => exact .ran (hEngages.counting tally) (hRuns.beside _)
  | stopped => exact .stopped

/-- A call on a dispatcher. -/
inductive Call where
  | serve (request : Request) (response : Response)
  | prepare
  | stop

/-- What a call comes back with, or the panic that comes out of it. -/
inductive Outcome where
  | served (ending : Except Panic Unit) (response : Response)
  | prepared (ending : Ending Unit)
  | stopped

namespace Call

/-- A call that needs the application. -/
def IsUse (call : Call) : Prop := call ≠ stop

def perform (d : Dispatcher σ H) : Call → Effect σ (Outcome × Dispatcher σ H)
  | serve request response => do
    let served ← d.serve request response
    return (.served served.ending served.response, served.dispatcher)
  | prepare => do
    let (ending, d) ← d.prepare
    return (.prepared ending, d)
  | stop => do return (.stopped, ← d.stop)

/-- What becomes of a call on a stopped dispatcher. Every use of it panics. -/
def refusal : Call → Outcome
  | serve _ response => .served (.error usedAfterStop) response
  | prepare => .prepared (.panicked usedAfterStop)
  | stop => .stopped

/-- How often the application of a dispatcher starts for a call. -/
def starts (d : Dispatcher σ H) : Call → Nat
  | stop => 0
  | _ => d.starts

end Call

/-- Make calls one after the other. A panic ends its own call only. -/
def performAll (d : Dispatcher σ H) : List Call → Effect σ (List Outcome × Dispatcher σ H)
  | [] => return ([], d)
  | call :: calls => do
    let (outcome, d) ← call.perform d
    let (outcomes, d) ← performAll d calls
    return (outcome :: outcomes, d)

/-- Making a call from the state `s`: its outcome, the dispatcher and the state after it. -/
inductive Performs (s : σ) :
    Dispatcher σ H → Call → Outcome → Dispatcher σ H → σ → Prop where
  | served {d : Dispatcher σ H} {request : Request} {response : Response} {served : Served σ H}
      {s' : σ} (hServes : d.Serves request response s served s') :
      Performs s d (.serve request response) (.served served.ending served.response)
        served.dispatcher s'
  | prepared {d : Dispatcher σ H} {app : Application σ H} {s' : σ}
      (hEngages : d.Engages s app s') :
      Performs s d .prepare (.prepared (.returned ())) (ready app) s'
  | unprepared {d : Dispatcher σ H} {message : String} {s' : σ}
      (hStart : d.StartFails s message s') :
      Performs s d .prepare (.prepared (.failed (startFailure message))) (failed message) s'
  | refused : Performs s stopped .prepare (.prepared (.panicked usedAfterStop)) stopped s
  | stopped (d : Dispatcher σ H) : Performs s d .stop .stopped stopped s

theorem result_prepare_of_engages {d : Dispatcher σ H} {app : Application σ H} {s s₁ : σ}
    (h : d.Engages s app s₁) : d.prepare.result s = ((.returned (), ready app), s₁) := by
  simp [prepare, result_engage_of_engages h]

theorem result_prepare_of_startFails {d : Dispatcher σ H} {message : String} {s s₁ : σ}
    (h : d.StartFails s message s₁) :
    d.prepare.result s = ((.failed (startFailure message), failed message), s₁) := by
  simp [prepare, result_engage_of_startFails h]

theorem value_stop (d : Dispatcher σ H) : d.stop.value = stopped := by
  cases d <;> rfl

/-- Every call comes to something, whatever state the dispatcher is in. -/
theorem exists_performs (d : Dispatcher σ H) (call : Call) (s : σ) :
    ∃ outcome after s', d.Performs s call outcome after s' := by
  cases call with
  | serve request response =>
      exact ⟨_, _, _, .served ((result_serve_iff d request response _ s _).mp rfl)⟩
  | stop => exact ⟨_, _, _, .stopped d⟩
  | prepare =>
      by_cases hInUse : d = stopped
      · subst hInUse
        exact ⟨_, _, _, .refused⟩
      · rcases d.engages_or_startFails hInUse s with ⟨app, s₁, hEngages⟩ | ⟨message, s₁, hStart⟩
        · exact ⟨_, _, _, .prepared hEngages⟩
        · exact ⟨_, _, _, .unprepared hStart⟩

/-- The relation is sound: what it says about a call is what the call does. -/
theorem result_perform_of_performs {d after : Dispatcher σ H} {call : Call} {outcome : Outcome}
    {s s' : σ} (h : d.Performs s call outcome after s') :
    (call.perform d).result s = ((outcome, after), s') := by
  cases h with
  | served hServes =>
      simp [Call.perform, (result_serve_iff ..).mpr hServes]
  | prepared hEngages =>
      simp [Call.perform, result_prepare_of_engages hEngages]
  | unprepared hStart =>
      simp [Call.perform, result_prepare_of_startFails hStart]
  | refused => rfl
  | stopped => simp [Call.perform, value_stop]

/-- With a tally each call does as it does without, and starts are counted. -/
theorem Performs.counting {d after : Dispatcher σ H} {call : Call} {outcome : Outcome} {s s' : σ}
    (h : d.Performs s call outcome after s') (tally : Nat) :
    d.counting.Performs (s, tally) call outcome after.counting (s', tally + call.starts d) := by
  cases h with
  | served hServes => exact .served (hServes.counting tally)
  | prepared hEngages => exact .prepared (hEngages.counting tally)
  | unprepared hStart => exact .unprepared (hStart.counting tally)
  | refused => exact .refused
  | stopped => exact .stopped d.counting

/-- The dispatcher after a use from the state `s`, however the use ends. -/
def engaged (d : Dispatcher σ H) (s : σ) : Dispatcher σ H := (d.engage.result s).1.2

theorem engaged_of_engages {d : Dispatcher σ H} {app : Application σ H} {s s₁ : σ}
    (h : d.Engages s app s₁) : d.engaged s = ready app := by
  rw [engaged, result_engage_of_engages h]

theorem engaged_of_startFails {d : Dispatcher σ H} {message : String} {s s₁ : σ}
    (h : d.StartFails s message s₁) : d.engaged s = failed message := by
  rw [engaged, result_engage_of_startFails h]

/-- A dispatcher whose application does not start any more. -/
def IsSettled (d : Dispatcher σ H) : Prop := ∀ launch, d ≠ dormant launch

/-- After it was engaged a dispatcher is settled, even if the start failed. -/
theorem isSettled_engaged (d : Dispatcher σ H) (s : σ) : (d.engaged s).IsSettled := by
  intro launch
  by_cases hInUse : d = stopped
  · subst hInUse
    simp [engaged, engage]
  · rcases d.engages_or_startFails hInUse s with ⟨app, s₁, hEngages⟩ | ⟨message, s₁, hStart⟩
    · simp [engaged_of_engages hEngages]
    · simp [engaged_of_startFails hStart]

theorem IsSettled.engaged {d : Dispatcher σ H} (h : d.IsSettled) (s : σ) : d.engaged s = d := by
  cases d with
  | dormant launch => exact absurd rfl (h launch)
  | _ => rfl

theorem IsSettled.starts {d : Dispatcher σ H} (h : d.IsSettled) : d.starts = 0 := by
  cases d with
  | dormant launch => exact absurd rfl (h launch)
  | _ => rfl

/-- Serving and preparing leave the same dispatcher, which only depends on the start. -/
theorem Performs.eq_engaged {d after : Dispatcher σ H} {call : Call} {outcome : Outcome} {s s' : σ}
    (h : d.Performs s call outcome after s') (hUse : call.IsUse) : after = d.engaged s := by
  cases h with
  | prepared hEngages => exact (engaged_of_engages hEngages).symm
  | unprepared hStart => exact (engaged_of_startFails hStart).symm
  | refused => rfl
  | stopped => exact absurd rfl hUse
  | served hServes =>
      cases hServes with
      | unstarted hStart => exact (engaged_of_startFails hStart).symm
      | ran hEngages => exact (engaged_of_engages hEngages).symm
      | stopped => rfl

/-- One call of any kind settles a dispatcher. -/
theorem Performs.isSettled {d after : Dispatcher σ H} {call : Call} {outcome : Outcome} {s s' : σ}
    (h : d.Performs s call outcome after s') : after.IsSettled := by
  by_cases hUse : call.IsUse
  · rw [h.eq_engaged hUse]
    exact d.isSettled_engaged s
  · obtain rfl : call = .stop := Classical.not_not.mp hUse
    cases h with
    | stopped => simp [IsSettled]

/-- Making calls one after the other from the state `s`. -/
inductive PerformsAll : Dispatcher σ H → σ → List Call → List Outcome → Dispatcher σ H → σ → Prop
    where
  | nil (d : Dispatcher σ H) (s : σ) : PerformsAll d s [] [] d s
  | cons {d d₁ d₂ : Dispatcher σ H} {s s₁ s₂ : σ} {call : Call} {calls : List Call}
      {outcome : Outcome} {outcomes : List Outcome} (hCall : d.Performs s call outcome d₁ s₁)
      (hCalls : PerformsAll d₁ s₁ calls outcomes d₂ s₂) :
      PerformsAll d s (call :: calls) (outcome :: outcomes) d₂ s₂

/-- Calls can be made one after the other without an end to it, since none gets stuck. -/
theorem exists_performsAll (d : Dispatcher σ H) (calls : List Call) (s : σ) :
    ∃ outcomes after s', d.PerformsAll s calls outcomes after s' := by
  induction calls generalizing d s with
  | nil => exact ⟨_, _, _, .nil d s⟩
  | cons call calls ih =>
      obtain ⟨outcome, d₁, s₁, hCall⟩ := d.exists_performs call s
      obtain ⟨outcomes, d₂, s₂, hCalls⟩ := ih d₁ s₁
      exact ⟨_, _, _, .cons hCall hCalls⟩

/-- The relation is sound for sequences too, by induction on the calls. -/
theorem result_performAll_of_performsAll {d after : Dispatcher σ H} {calls : List Call}
    {outcomes : List Outcome} {s s' : σ} (h : d.PerformsAll s calls outcomes after s') :
    (performAll d calls).result s = ((outcomes, after), s') := by
  induction h with
  | nil d s => rfl
  | cons hCall hCalls ih => simp [performAll, result_perform_of_performs hCall, ih]

theorem PerformsAll.append {d d₁ d₂ : Dispatcher σ H} {before after : List Call}
    {earlier later : List Outcome} {s s₁ s₂ : σ} (hBefore : d.PerformsAll s before earlier d₁ s₁)
    (hAfter : d₁.PerformsAll s₁ after later d₂ s₂) :
    d.PerformsAll s (before ++ after) (earlier ++ later) d₂ s₂ := by
  induction hBefore with
  | nil d s => exact hAfter
  | cons hCall hCalls ih => exact .cons hCall (ih hAfter)

/-- Nothing gets a stopped dispatcher to do anything. -/
theorem performsAll_stopped (calls : List Call) (s : σ) :
    (stopped : Dispatcher σ H).PerformsAll s calls (calls.map Call.refusal) stopped s := by
  induction calls with
  | nil => exact .nil stopped s
  | cons call calls ih =>
      refine .cons ?_ ih
      cases call with
      | serve request response => exact .served .stopped
      | prepare => exact .refused
      | stop => exact .stopped stopped

/-- What is called after a stop is refused, and changes nothing. -/
theorem PerformsAll.append_stop {d d₁ : Dispatcher σ H} {before : List Call}
    {earlier : List Outcome} {s s₁ : σ} (hBefore : d.PerformsAll s before earlier d₁ s₁)
    (rest : List Call) :
    d.PerformsAll s (before ++ .stop :: rest) (earlier ++ .stopped :: rest.map Call.refusal)
      stopped s₁ :=
  hBefore.append (.cons (.stopped d₁) (performsAll_stopped rest s₁))

/-- Unless it is stopped, a settled dispatcher never changes again. -/
theorem PerformsAll.eq_of_isSettled {d after : Dispatcher σ H} {calls : List Call}
    {outcomes : List Outcome} {s s' : σ} (h : d.PerformsAll s calls outcomes after s')
    (hSettled : d.IsSettled) (hStop : .stop ∉ calls) : after = d := by
  induction h with
  | nil d s => rfl
  | cons hCall hCalls ih =>
      obtain ⟨hUse, hRest⟩ := not_or.mp (hStop ∘ List.mem_cons.mpr)
      rw [ih hCall.isSettled hRest, hCall.eq_engaged (Ne.symm hUse), hSettled.engaged]

/-- How often the application starts in the course of calls. -/
def startsIn (d : Dispatcher σ H) : List Call → Nat
  | [] => 0
  | call :: _ => call.starts d

theorem IsSettled.startsIn {d : Dispatcher σ H} (h : d.IsSettled) (calls : List Call) :
    d.startsIn calls = 0 := by
  cases calls with
  | nil => rfl
  | cons call calls =>
      cases call with
      | stop => rfl
      | _ => exact h.starts

/-- The tally of a sequence is the number of starts in it. -/
theorem PerformsAll.counting {d after : Dispatcher σ H} {calls : List Call}
    {outcomes : List Outcome} {s s' : σ} (h : d.PerformsAll s calls outcomes after s')
    (tally : Nat) :
    d.counting.PerformsAll (s, tally) calls outcomes after.counting
      (s', tally + d.startsIn calls) := by
  induction h generalizing tally with
  | nil d s => exact .nil d.counting (s, tally)
  | @cons d d₁ d₂ s s₁ s₂ call calls outcome outcomes hCall hCalls ih =>
      have hLater := ih (tally + call.starts d)
      rw [hCall.isSettled.startsIn] at hLater
      exact .cons (hCall.counting tally) hLater

/-- Only the first call can start the application, because it settles the dispatcher. -/
theorem startsIn_le_one (d : Dispatcher σ H) (calls : List Call) : d.startsIn calls ≤ 1 := by
  have hStarts : d.starts ≤ 1 := by
    cases d with
    | dormant launch => exact Nat.le_refl 1
    | _ => exact Nat.zero_le 1
  cases calls with
  | nil => exact Nat.zero_le 1
  | cons call calls =>
      cases call with
      | stop => exact Nat.zero_le 1
      | _ => exact hStarts

/-- A use comes before every stop if and only if it comes first. -/
theorem exists_use_before_stop_iff (call : Call) (calls : List Call) :
    (∃ before use rest, call :: calls = before ++ use :: rest ∧ use.IsUse ∧ .stop ∉ before) ↔
      call.IsUse := by
  constructor
  · rintro ⟨before, use, rest, hSplit, hUse, hBefore⟩
    cases before with
    | nil =>
        obtain ⟨rfl, -⟩ := List.cons.inj hSplit
        exact hUse
    | cons first before =>
        obtain ⟨rfl, -⟩ := List.cons.inj hSplit
        rintro rfl
        exact hBefore List.mem_cons_self
  · intro hUse
    exact ⟨[], call, calls, rfl, hUse, List.not_mem_nil⟩

/-- The application starts exactly if it was still to be started, and is used before
it is stopped. -/
theorem startsIn_eq_one_iff (d : Dispatcher σ H) (calls : List Call) :
    d.startsIn calls = 1 ↔ (∃ launch, d = dormant launch) ∧
      ∃ before use rest, calls = before ++ use :: rest ∧ use.IsUse ∧ .stop ∉ before := by
  cases calls with
  | nil => simp [startsIn]
  | cons call calls =>
      rw [exists_use_before_stop_iff]
      cases d <;> cases call <;> simp [startsIn, Call.starts, starts, Call.IsUse]

theorem engaged_ne_stopped {d : Dispatcher σ H} (hInUse : d ≠ stopped) (s : σ) :
    d.engaged s ≠ stopped := by
  rcases d.engages_or_startFails hInUse s with ⟨app, s₁, hEngages⟩ | ⟨message, s₁, hStart⟩
  · simp [engaged_of_engages hEngages]
  · simp [engaged_of_startFails hStart]

/-- The first use of a dormant dispatcher starts the application, or remembers why
it could not. -/
theorem engaged_dormant (launch : Effect σ (Except Panic (Application σ H))) (s : σ) :
    (∃ app, (launch.result s).1 = .ok app ∧ (dormant launch).engaged s = ready app) ∨
      ∃ panic, (launch.result s).1 = .error panic ∧
        (dormant launch).engaged s = failed panic.message := by
  cases hLaunch : (launch.result s).1 with
  | ok app =>
      have hEngages : (dormant launch).Engages s app (launch.result s).2 :=
        .launched (Prod.ext hLaunch rfl)
      exact .inl ⟨app, rfl, engaged_of_engages hEngages⟩
  | error panic =>
      have hStart : (dormant launch).StartFails s panic.message (launch.result s).2 :=
        .now (Prod.ext hLaunch rfl)
      exact .inr ⟨panic, rfl, engaged_of_startFails hStart⟩

/-- Without a stop, the first use decides what the dispatcher stays. -/
theorem PerformsAll.eq_engaged {d after : Dispatcher σ H} {calls : List Call}
    {outcomes : List Outcome} {s s' : σ} (h : d.PerformsAll s calls outcomes after s')
    (hCalls : calls ≠ []) (hStop : .stop ∉ calls) : after = d.engaged s := by
  cases h with
  | nil => exact absurd rfl hCalls
  | cons hCall hRun =>
      obtain ⟨hUse, hRest⟩ := not_or.mp (hStop ∘ List.mem_cons.mpr)
      rw [hRun.eq_of_isSettled hCall.isSettled hRest, hCall.eq_engaged (Ne.symm hUse)]

/-- The life of a dispatcher through calls that leave it as `after`. -/
structure LifeCycle (made : Dispatcher σ H) (calls : List Call) (s : σ) (outcomes : List Outcome)
    (after : Dispatcher σ H) (s' : σ) : Prop where
  starts : ∃ starts, (performAll made.counting calls).result (s, 0) =
      ((outcomes, after.counting), (s', starts)) ∧ starts ≤ 1 ∧
    (starts = 1 ↔ (∃ launch, made = dormant launch) ∧
      ∃ before use rest, calls = before ++ use :: rest ∧ use.IsUse ∧ .stop ∉ before)
  stopped_iff : after = stopped ↔ .stop ∈ calls
  ready : .stop ∉ calls → ∀ app, made = ready app → after = ready app
  dormant_iff : .stop ∉ calls → ∀ launch, made = dormant launch →
    ((∃ launch', after = dormant launch') ↔ ∀ call ∈ calls, ¬ call.IsUse)
  launched : .stop ∉ calls → (∃ call ∈ calls, call.IsUse) → ∀ launch, made = dormant launch →
    (∃ app, (launch.result s).1 = .ok app ∧ after = Dispatcher.ready app) ∨
      ∃ panic, (launch.result s).1 = .error panic ∧ after = failed panic.message
  refused : ∀ before rest, calls = before ++ .stop :: rest →
    ∃ earlier d, (performAll made before).result s = ((earlier, d), s') ∧
      outcomes = earlier ++ .stopped :: rest.map Call.refusal

/-- From the first stop on there are only refusals, and the state of the application stays
as it was then. -/
theorem PerformsAll.refused {d after : Dispatcher σ H} {before rest : List Call}
    {outcomes : List Outcome} {s s' : σ}
    (h : d.PerformsAll s (before ++ .stop :: rest) outcomes after s') :
    after = stopped ∧ ∃ earlier d₁, (performAll d before).result s = ((earlier, d₁), s') ∧
      outcomes = earlier ++ .stopped :: rest.map Call.refusal := by
  obtain ⟨earlier, d₁, s₁, hBefore⟩ := d.exists_performsAll before s
  have hStopped := result_performAll_of_performsAll (hBefore.append_stop rest)
  rw [result_performAll_of_performsAll h] at hStopped
  obtain ⟨⟨rfl, rfl⟩, rfl⟩ := by simpa using hStopped
  exact ⟨rfl, earlier, d₁, result_performAll_of_performsAll hBefore, rfl⟩

/-- Dispatchers are stopped by stopping them, and by nothing else. -/
theorem PerformsAll.eq_stopped_iff {made after : Dispatcher σ H} (hMade : made ≠ stopped)
    {calls : List Call} {outcomes : List Outcome} {s s' : σ}
    (h : made.PerformsAll s calls outcomes after s') : after = stopped ↔ .stop ∈ calls := by
  constructor
  · intro hAfter
    refine Classical.byContradiction fun hStop => ?_
    by_cases hCalls : calls = []
    · subst hCalls
      cases h with
      | nil => exact hMade hAfter
    · exact engaged_ne_stopped hMade s ((h.eq_engaged hCalls hStop).symm.trans hAfter)
  · intro hStop
    obtain ⟨before, rest, rfl⟩ := List.append_of_mem hStop
    exact h.refused.1

/-- A dispatcher stays dormant as long as no call is made that uses it. -/
theorem PerformsAll.eq_dormant_iff {launch : Effect σ (Except Panic (Application σ H))}
    {after : Dispatcher σ H} {calls : List Call} {outcomes : List Outcome} {s s' : σ}
    (h : (dormant launch).PerformsAll s calls outcomes after s') (hStop : .stop ∉ calls) :
    (∃ launch', after = dormant launch') ↔ ∀ call ∈ calls, ¬ call.IsUse := by
  cases calls with
  | nil =>
      cases h with
      | nil => simp
  | cons call calls =>
      have hUse : call.IsUse := fun hCall => hStop (hCall ▸ List.mem_cons_self)
      constructor
      · rintro ⟨launch', hAfter⟩
        rw [h.eq_engaged (List.cons_ne_nil call calls) hStop] at hAfter
        exact absurd hAfter (isSettled_engaged _ s launch')
      · intro hUnused
        exact absurd hUse (hUnused call List.mem_cons_self)

/-- Sequences of calls go through the life cycle, put together from the lemmas above. -/
theorem PerformsAll.lifeCycle {made after : Dispatcher σ H} (hMade : made ≠ stopped)
    {calls : List Call} {outcomes : List Outcome} {s s' : σ}
    (h : made.PerformsAll s calls outcomes after s') : LifeCycle made calls s outcomes after s' := by
  constructor
  · refine ⟨made.startsIn calls, ?_, made.startsIn_le_one calls, made.startsIn_eq_one_iff calls⟩
    have hCounting := result_performAll_of_performsAll (h.counting 0)
    rwa [Nat.zero_add] at hCounting
  · exact h.eq_stopped_iff hMade
  · rintro hStop app rfl
    exact h.eq_of_isSettled (by simp [IsSettled]) hStop
  · rintro hStop launch rfl
    exact h.eq_dormant_iff hStop
  · rintro hStop ⟨call, hCall, -⟩ launch rfl
    rw [h.eq_engaged (List.ne_nil_of_mem hCall) hStop]
    exact engaged_dormant launch s
  · rintro before rest rfl
    exact h.refused.2

/-- A dispatcher that was not made stopped starts its application once at most, keeps what came of
that until it is stopped, and stays stopped. A panic that comes out of a request changes nothing
about that. -/
theorem lifeCycle_performAll (made : Dispatcher σ H) (hMade : made ≠ stopped) (calls : List Call)
    (s : σ) :
    (∃ outcomes after s', (performAll made calls).result s = ((outcomes, after), s') ∧
      LifeCycle made calls s outcomes after s') ∧
    ∀ (d : Dispatcher σ H) (request : Request) (response : Response) (s : σ) (panic : Panic),
      d ≠ stopped → ((d.serve request response).result s).1.ending = .error panic →
      ∃ app s₁, d.Engages s app s₁ ∧
        ((d.serve request response).result s).1.dispatcher = ready app := by
  constructor
  · obtain ⟨outcomes, after, s', hRun⟩ := made.exists_performsAll calls s
    exact ⟨outcomes, after, s', result_performAll_of_performsAll hRun, hRun.lifeCycle hMade⟩
  · intro d request response s panic hInUse hPanics
    obtain ⟨served, s', hServe⟩ :
        ∃ served s', (d.serve request response).result s = (served, s') := ⟨_, _, rfl⟩
    rw [hServe] at hPanics ⊢
    cases (result_serve_iff ..).mp hServe with
    | stopped => exact absurd rfl hInUse
    | unstarted => cases hPanics
    | ran hEngages hRuns => exact ⟨_, _, hEngages, rfl⟩

/-- A dispatcher that is yet to start an application whose error handler panics. -/
def stormy : Dispatcher Unit (RouteMatch Unit) := dormant (pure (.ok explosive.application))

theorem status_of_no_failure (status : Http.Status) (record : FailureRecord) :
    none = some record → status = record.status :=
  nofun

/-- A request that panics, between a start and a stop, and calls after that. -/
def stormyCalls : List Call :=
  [.prepare, .serve { method := .get, path := "/x" }
    { status_of_failure := status_of_no_failure .ok }, .stop, .prepare, .stop]

theorem performAll_stormyCalls :
    (∃ outcomes s', (performAll stormy stormyCalls).result () = ((outcomes, stopped), s') ∧
      outcomes.drop 2 = [.stopped, .prepared (.panicked usedAfterStop), .stopped] ∧
      ((performAll stormy.counting stormyCalls).result ((), 0)).2 = (s', 1)) ∧
    ((stormy.serve { method := .get, path := "/x" } {}).result ()).1.dispatcher =
      ready explosive.application := by
  have hMade : stormy ≠ stopped := by simp [stormy]
  obtain ⟨⟨outcomes, after, s', hRun, hLife⟩, hUnwound⟩ :=
    lifeCycle_performAll stormy hMade stormyCalls ()
  constructor
  · obtain rfl : after = stopped := hLife.stopped_iff.mpr (by simp [stormyCalls])
    obtain ⟨starts, hCounting, -, hOnce⟩ := hLife.starts
    obtain rfl : starts = 1 :=
      hOnce.mpr ⟨⟨_, rfl⟩, [], .prepare, _, rfl, by simp [Call.IsUse], List.not_mem_nil⟩
    obtain ⟨earlier, d, hBefore, hOutcomes⟩ :=
      hLife.refused (stormyCalls.take 2) (stormyCalls.drop 3) rfl
    have hLength : earlier.length = 2 := (congrArg (fun r => r.1.1.length) hBefore).symm
    refine ⟨outcomes, s', hRun, ?_, congrArg Prod.snd hCounting⟩
    rw [hOutcomes, ← hLength, List.drop_left]
    rfl
  · obtain ⟨app, s₁, hEngages, hReady⟩ := hUnwound stormy { method := .get, path := "/x" } {} ()
      (.text "error handler exploded") hMade rfl
    cases hEngages with
    | launched hLaunch =>
        obtain ⟨hApp, -⟩ := Prod.ext_iff.mp hLaunch
        obtain rfl : explosive.application = app := Except.ok.inj hApp
        exact hReady

end Dispatcher

end InvocationBridge
