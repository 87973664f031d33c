import InvocationBridge.Proofs.Function.EntryPoints
import InvocationBridge.Proofs.Web.FailureStatus
import InvocationBridge.Proofs.Web.Resolution

/-!
How requests to the pet store end.

Its handlers never panic, and they leave it to the dispatcher to record their failures. So there are
four statuses to a request: the usual one, and three for failures.
-/

namespace InvocationBridge

/-- A dispatcher in use, of one application. -/
structure Dispatcher.Offers {σ H : Type} (d : Dispatcher σ H) (app : Application σ H) : Prop where
  hosts : d.Hosts app
  inUse : d ≠ stopped

/-- Serving a request leaves a dispatcher in use, of the same application. -/
theorem Dispatcher.Offers.serves {σ H : Type} {d : Dispatcher σ H} {app : Application σ H}
    (h : d.Offers app) {request : Request} {response : Response} {s s' : σ} {served : Served σ H}
    (hServes : d.Serves request response s served s') : served.dispatcher.Offers app := by
  cases hServes with
  | stopped => exact absurd rfl h.inUse
  | unstarted => exact ⟨nofun, nofun⟩
  | ran hEngages =>
      cases h.hosts _ _ _ hEngages
      refine ⟨?_, nofun⟩
      intro s₁ started s₂ hRunning
      cases hRunning
      rfl

/-- What a handler may come to that does not panic: a response with status and failure as they were
before. -/
structure Mild (response : Response) (outcome : Ending Unit × Response) : Prop where
  ending : ∀ panic, outcome.1 ≠ .panicked panic
  status : outcome.2.status = response.status
  failure : outcome.2.failure = response.failure

/-- A failure that is reported as it is: neither a bad request nor an unknown route. -/
structure Failure.IsKept (failure : Failure) : Prop where
  proper : failure.IsProper
  routed : ∀ method path, failure ≠ .noRoute method path

theorem Failure.isKept_accessDenied (message : String) : (accessDenied message).IsKept :=
  ⟨nofun, nofun⟩

/-- The failures that handlers of the pet store raise themselves are kept by its
error handlers. -/
theorem Failure.isKept_notFound (message : String) : (notFound message).IsKept := ⟨nofun, nofun⟩

theorem Failure.isKept_failed (message : String) (source : Option String) :
    (failed message source).IsKept := ⟨nofun, nofun⟩

/-- A response with the usual status, or with a failure on record that has one of some codes. -/
inductive Response.EndsIn (codes : List Nat) (r : Response) : Prop where
  | well (hFailure : r.failure = none) (hStatus : r.status = .ok)
  | badly {record : FailureRecord} (hFailure : r.failure = some record)
      (hStatus : record.status.code ∈ codes)

theorem Response.EndsIn.mono {codes more : List Nat} {r : Response} (h : r.EndsIn codes)
    (hMore : codes ⊆ more) : r.EndsIn more := by
  cases h with
  | well hFailure hStatus => exact .well hFailure hStatus
  | badly hFailure hStatus => exact .badly hFailure (hMore hStatus)

/-- The status of such a response has one of the codes, or is the usual one. -/
theorem Response.EndsIn.code_mem {codes : List Nat} {r : Response} (h : r.EndsIn codes) :
    r.status.code ∈ 200 :: codes := by
  cases h with
  | well _ hStatus =>
      rw [hStatus]
      exact List.mem_cons_self
  | badly hFailure hStatus =>
      rw [r.status_of_failure _ hFailure]
      exact List.mem_cons_of_mem _ hStatus

/-- A proper failure has one of three statuses: there is no fourth in the table. -/
theorem Failure.code_mem_of_isProper {failure : Failure} (h : failure.IsProper) :
    failure.status.code ∈ [403, 404, 500] := by
  have hStatus := failure.status_mem_iff.mpr h
  simp only [List.mem_cons, List.not_mem_nil, or_false] at hStatus
  rcases hStatus with hStatus | hStatus | hStatus <;> rw [hStatus] <;> decide

/-- A router either has no route for a request, or the handler of one deals with it. -/
theorem Router.failed_or_found_of_attempts {σ : Type} {router : Router σ} {request : Request}
    {response left : Response} {ending : Ending Unit} {s s' : σ}
    (h : router.application.Attempts request response s ending left s') :
    (∃ failure, ending = .failed failure ∧ left = response) ∨
      ∃ found, router.find? request.method request.path = some found ∧
        (found.handler request found.parameters response).result s = ((ending, left), s') := by
  cases hFind : router.find request.method request.path with
  | error failure =>
      have hResult : (router.application.find request.method request.path).result s =
          (.failed failure, s) := by
        simp only [application, hFind, Effect.result_pure]
      cases h with
      | unresolved => exact .inl ⟨_, rfl, rfl⟩
      | panicked hPanics => cases hResult.symm.trans hPanics
      | ran hReturns => cases hResult.symm.trans hReturns
  | ok found =>
      have hResult : (router.application.find request.method request.path).result s =
          (.returned found, s) := by
        simp only [application, hFind, Effect.result_pure]
      cases h with
      | unresolved hFails => cases hResult.symm.trans hFails
      | panicked hPanics => cases hResult.symm.trans hPanics
      | ran hReturns hRun =>
          cases hResult.symm.trans hReturns
          exact .inr ⟨found, (find_eq_ok_iff ..).mp hFind, hRun⟩

namespace PetStore

open Dispatcher

theorem mild_respond (response : Response) (value : Json) :
    Mild response (respond response value) := ⟨nofun, rfl, rfl⟩

theorem mild_failed (response : Response) (failure : Failure) :
    Mild response (.failed failure, response) := ⟨nofun, rfl, rfl⟩

/-- What a handler of the pet store comes to: an answer that is a JSON value, or a failure before it
wrote anything. -/
inductive Clean (response : Response) : Ending Unit × Response → Prop where
  | answered (value : Json) : Clean response (respond response value)
  | refused {failure : Failure} (hKept : failure.IsKept) :
      Clean response (.failed failure, response)

theorem Clean.mild {response : Response} {outcome : Ending Unit × Response}
    (h : Clean response outcome) : Mild response outcome := by
  cases h with
  | answered value => exact mild_respond response value
  | refused => exact mild_failed response _

theorem isKept_of_pageSize {request : Request} {failure : Failure}
    (h : pageSize request = .error failure) : failure.IsKept := by
  unfold pageSize at h
  split at h
  · cases h
  · split at h
    · cases h
      exact Failure.isKept_failed ..
    · cases h

section Handlers

variable (request : Request) (parameters : PathParameters) (response : Response) (s : RandomSource)

/-- Handlers respond with a value or fail with a kept failure. There is one lemma for
each of them. -/
theorem clean_browse : Clean response ((browse request parameters response).result s).1 := by
  rw [browse]
  cases hPage : pageSize request with
  | error failure => exact .refused (isKept_of_pageSize hPage)
  | ok limit => exact .answered _

theorem clean_visit : Clean response ((visit request parameters response).result s).1 := by
  rw [visit]
  cases (parameters.get? "id").bind Uuid.parse? with
  | none => exact .refused (Failure.isKept_notFound _)
  | some id => exact .answered _

theorem clean_welcome : Clean response ((welcome request parameters response).result s).1 := by
  rw [welcome]
  cases Pet.parse request.body with
  | error e => exact .refused (Failure.isKept_failed ..)
  | ok pet =>
      dsimp only
      split <;> exact .answered _

theorem clean_tally : Clean response ((tally request parameters response).result s).1 := by
  rw [tally]
  cases Json.parse request.body with
  | error e => exact .refused (Failure.isKept_failed ..)
  | ok event =>
      by_cases hRecords : recordCount event = 0
      · simp only [hRecords, if_true]
        exact .refused (Failure.isKept_notFound _)
      · simp only [hRecords, if_false]
        exact .answered _

theorem clean_denyAccess : Clean response ((denyAccess request parameters response).result s).1 :=
  .refused (Failure.isKept_accessDenied _)

end Handlers

theorem handlers_routes :
    router.value.routes.map Route.handler = [browse, visit, welcome, tally, denyAccess] := rfl

/-- Whatever route a request takes, its handler comes to a clean end. -/
theorem clean_of_find {method : Http.Method} {path : String} {found : RouteMatch RandomSource}
    (h : router.value.find? method path = some found) (request : Request) (response : Response)
    (s : RandomSource) :
    Clean response ((found.handler request found.parameters response).result s).1 := by
  rw [Router.find?_eq_findSome?] at h
  obtain ⟨route, hRoute, hMatch⟩ := List.exists_of_findSome?_eq_some h
  obtain ⟨-, hHandler, -⟩ := Route.match?_eq_some_iff.mp hMatch
  have hAll : ∀ handler ∈ router.value.routes.map Route.handler,
      Clean response ((handler request found.parameters response).result s).1 := by
    rw [handlers_routes]
    simp only [List.forall_mem_cons]
    exact ⟨clean_browse .., clean_visit .., clean_welcome .., clean_tally .., clean_denyAccess ..,
      nofun⟩
  exact hHandler ▸ hAll route.handler (List.mem_map_of_mem hRoute)

/-- An attempt never panics and records nothing by itself, route or not. -/
theorem mild_of_attempts {request : Request} {response left : Response} {ending : Ending Unit}
    {s s' : RandomSource} (h : store.Attempts request response s ending left s') :
    Mild response (ending, left) := by
  rcases Router.failed_or_found_of_attempts h with ⟨failure, hEnding, hLeft⟩ | ⟨found, hFound, hRun⟩
  · rw [hEnding, hLeft]
    exact mild_failed response failure
  · have hClean := clean_of_find hFound request response s
    rw [hRun] at hClean
    exact hClean.mild

theorem not_spoils_reportUnknownPath (request : Request) :
    ¬Router.Spoils reportUnknownPath request := by
  intro ⟨failure, s, message, s', hProper, hAmend⟩
  cases failure with
  | badRequest message => exact hProper message rfl
  | _ => cases hAmend

/-- Whatever the pet store fails with is told as 403, 404 or 500. -/
theorem isProper_of_amend {raised amended : Failure} {request : Request} {s s' : RandomSource}
    (hRaised : raised.IsProper)
    (hAmend : (store.amend raised request).result s = (.ok amended, s')) : amended.IsProper := by
  refine Router.isProper_of_amendWith ?_ hRaised hAmend
  intro handler hHandler
  rw [List.mem_singleton.mp hHandler]
  exact not_spoils_reportUnknownPath request

/-- After the error handlers, a run has ended well or with one of three codes. -/
theorem endsIn_of_runs {request : Request} {final : Response} {ending : Except Panic Unit}
    {s s' : RandomSource} (h : store.Runs request {} s ending final s') :
    final.EndsIn [403, 404, 500] := by
  cases h with
  | answered hAttempts =>
      have hMild := mild_of_attempts hAttempts
      exact .well hMild.failure hMild.status
  | recovered hAttempts hCaught hAmend =>
      have hMild := mild_of_attempts hAttempts
      have hProper := isProper_of_amend hCaught.ne_badRequest hAmend
      refine .badly (Response.failure_settled ..) ?_
      rw [show _ = none from hMild.failure]
      exact Failure.code_mem_of_isProper hProper
  | unwound _ _ hAmend => exact absurd (congrArg Prod.fst hAmend) (isCalm_store _ request _ _)

/-- Whatever comes of a request, the status is one of four. -/
theorem endsIn_of_serves {d : Dispatcher RandomSource (RouteMatch RandomSource)}
    (hOffers : d.Offers store) {request : Request} {s s' : RandomSource}
    {served : Served RandomSource (RouteMatch RandomSource)}
    (h : d.Serves request {} s served s') : served.response.EndsIn [403, 404, 500] := by
  cases h with
  | stopped => exact absurd rfl hOffers.inUse
  | @unstarted _ message =>
      have hProper : (startFailure message).IsProper := nofun
      exact .badly (Response.failure_settled ..) (Failure.code_mem_of_isProper hProper)
  | ran hEngages hRuns =>
      cases hOffers.hosts _ _ _ hEngages
      exact endsIn_of_runs hRuns

/-- What the code of the pet store takes for granted: that indices are in range, that the texts of
headers can be shown, and that no handler panics. -/
structure IsSound : Prop where
  breed : ∀ id seed, breeds[seed % breeds.length]? = some (madeUp id seed).breed
  name : ∀ id seed, names[seed % names.length]? = some (madeUp id seed).name
  octet : ∀ id : Uuid, ∃ first rest, id.octets = first :: rest
  contentType : ∀ response : Response,
    response.withContentType "application/json" = .ok (response.putHeader .contentType .json)
  handlers : ∀ request response left ending s s',
    store.Attempts request response s ending left s' → ∀ panic, ending ≠ .panicked panic

/-- A seed picks an item of the list, whatever it is, as long as there are any. -/
theorem getElem?_mod_length {items : List String} (hItems : items ≠ []) (seed : Nat) :
    items[seed % items.length]? = some (items.getD (seed % items.length) "") := by
  have hRange := Nat.mod_lt seed (List.length_pos_iff.mpr hItems)
  rw [List.getD_eq_getElem?_getD, List.getElem?_eq_getElem hRange, Option.getD_some]

/-- Everything that the code takes for granted is the case. -/
theorem isSound : IsSound where
  breed _ seed := getElem?_mod_length (List.cons_ne_nil _ _) seed
  name _ seed := getElem?_mod_length (List.cons_ne_nil _ _) seed
  octet id := List.exists_cons_of_length_pos (by rw [id.length_eq]; decide)
  contentType response := rfl
  handlers _ _ _ _ _ _ hAttempts := (mild_of_attempts hAttempts).ending

end PetStore

end InvocationBridge
