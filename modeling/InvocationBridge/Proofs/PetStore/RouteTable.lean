import InvocationBridge.Proofs.PetStore.Outcomes
import InvocationBridge.Proofs.Web.Unambiguous

/-!
The routes of the pet store, and what comes of a request by them.

No path matches two of the patterns for one method, so the order of the routes does not count. The
handlers fail before they write anything, so the message of a failure is all that is sent with it.
-/

namespace InvocationBridge

namespace Path.Pattern

/-- A pattern of one literal matches paths of that one segment, however they are written. -/
theorem match?_literal_iff {text path : String} {parameters : PathParameters} :
    match? [.literal text] path = some parameters ↔ segments path = [text] ∧ parameters = [] := by
  rw [match?, matchSegments_cons_eq_some_iff]
  constructor
  · rintro ⟨word, rest, taken, hPath, hTakes, hRest⟩
    obtain ⟨rfl, rfl⟩ := (matchSegments_nil_eq_some_iff ..).mp hRest
    cases hTakes
    exact ⟨hPath, rfl⟩
  · rintro ⟨hPath, rfl⟩
    exact ⟨text, [], [], hPath, .literal .., rfl⟩

/-- A pattern of a literal and a parameter binds the second of two segments. -/
theorem match?_literal_parameter_iff {text name path : String} {parameters : PathParameters} :
    match? [.literal text, .parameter name] path = some parameters ↔
      ∃ word, segments path = [text, word] ∧ parameters = [(name, word)] := by
  rw [match?, matchSegments_cons_eq_some_iff]
  constructor
  · rintro ⟨word, rest, taken, hPath, hTakes, hRest⟩
    obtain ⟨last, nothing, captured, rfl, hLast, hEnd⟩ :=
      (matchSegments_cons_eq_some_iff ..).mp hRest
    obtain ⟨rfl, rfl⟩ := (matchSegments_nil_eq_some_iff ..).mp hEnd
    cases hTakes
    cases hLast
    exact ⟨last, hPath, rfl⟩
  · rintro ⟨word, hPath, rfl⟩
    exact ⟨text, [word], [], hPath, .literal .., rfl⟩

end Path.Pattern

namespace PetStore

open Dispatcher

/-- The five routes: the method and the segments that each is for, its handler, and the parameters
that the handler is given. -/
inductive Routed : Http.Method → List String → Handler RandomSource → PathParameters → Prop where
  | browse : Routed .get ["pets"] browse []
  | visit (id : String) : Routed .get ["pets", id] visit [("id", id)]
  | welcome : Routed .post ["pets"] welcome []
  | tally : Routed .post ["events"] tally []
  | denyAccess : Routed .get ["foo"] denyAccess []

/-- No route has more than two segments, so that longer paths are unknown. -/
theorem Routed.length_le {method : Http.Method} {words : List String}
    {handler : Handler RandomSource} {parameters : PathParameters}
    (h : Routed method words handler parameters) : words.length ≤ 2 := by
  cases h <;> simp

theorem routes_router : router.value.routes =
    [⟨.get, [.literal "pets"], browse⟩, ⟨.get, [.literal "pets", .parameter "id"], visit⟩,
      ⟨.post, [.literal "pets"], welcome⟩, ⟨.post, [.literal "events"], tally⟩,
      ⟨.get, [.literal "foo"], denyAccess⟩] := rfl

/-- No two routes match the same request, hence their order does not matter. -/
theorem apart_routes : router.value.routes.Pairwise Route.Apart := by
  have hMethods : Http.Method.get ≠ .post := by decide
  rw [routes_router]
  simp [Route.Apart, Path.Pattern.Apart, Path.Segment.Differs, hMethods, hMethods.symm]

/-- The table finds exactly what `Routed` lists. One route cannot hide another. -/
theorem find?_eq_some_iff_routed (method : Http.Method) (path : String)
    (found : RouteMatch RandomSource) :
    router.value.find? method path = some found ↔
      Routed method (Path.segments path) found.handler found.parameters := by
  rw [Router.find?_eq_some_iff_of_apart apart_routes, routes_router]
  simp only [List.mem_cons, List.not_mem_nil, or_false, exists_eq_or_imp, exists_eq_left,
    Route.match?_eq_some_iff, Path.Pattern.match?_literal_iff,
    Path.Pattern.match?_literal_parameter_iff]
  obtain ⟨handler, parameters⟩ := found
  generalize Path.segments path = words
  constructor
  · rintro (⟨rfl, rfl, rfl, rfl⟩ | ⟨rfl, rfl, word, rfl, rfl⟩ | ⟨rfl, rfl, rfl, rfl⟩ |
      ⟨rfl, rfl, rfl, rfl⟩ | ⟨rfl, rfl, rfl, rfl⟩)
    · exact .browse
    · exact .visit word
    · exact .welcome
    · exact .tally
    · exact .denyAccess
  · intro h
    cases h with
    | browse => exact .inl ⟨rfl, rfl, rfl, rfl⟩
    | visit id => exact .inr (.inl ⟨rfl, rfl, id, rfl, rfl⟩)
    | welcome => exact .inr (.inr (.inl ⟨rfl, rfl, rfl, rfl⟩))
    | tally => exact .inr (.inr (.inr (.inl ⟨rfl, rfl, rfl, rfl⟩)))
    | denyAccess => exact .inr (.inr (.inr (.inr ⟨rfl, rfl, rfl, rfl⟩)))

/-- In whatever order the routes and the error handler are registered, and however they are grouped,
the pet store is the same. -/
theorem application_eq_store_of_perm {configurations : List (Configuration RandomSource)}
    (hPerm : configurations.flatten.Perm (routes ++ errors)) :
    (Router.ofConfigurations configurations).value.application = store := by
  have hErrors : configurations.flatten.filterMap Registration.errorHandler? =
      [reportUnknownPath] :=
    List.perm_singleton.mp (hPerm.filterMap _)
  exact Router.application_ofConfigurations_of_apart apart_routes (hPerm.filterMap _) hErrors

theorem attempt_of_find? {request : Request} {found : RouteMatch RandomSource}
    (h : router.value.find? request.method request.path = some found) (response : Response) :
    attempt store request response = found.handler request found.parameters response := by
  have hFind : store.find request.method request.path = pure (.returned found) := by
    simp only [store, Router.application, (Router.find_eq_ok_iff ..).mpr h]
  rw [attempt, hFind]
  rfl

/-- A request on a route is the business of its handler alone. -/
theorem attempt_of_routed {request : Request} {handler : Handler RandomSource}
    {parameters : PathParameters}
    (h : Routed request.method (Path.segments request.path) handler parameters)
    (response : Response) :
    attempt store request response = handler request parameters response :=
  attempt_of_find? ((find?_eq_some_iff_routed _ _ ⟨handler, parameters⟩).mpr h) response

/-- A request that no route is for. -/
def Unknown (request : Request) : Prop :=
  ∀ handler parameters, ¬Routed request.method (Path.segments request.path) handler parameters

/-- A request off the routes fails as such, and the response is as it was. -/
theorem attempt_of_unknown {request : Request} (h : Unknown request) (response : Response) :
    attempt store request response =
      pure (.failed (.noRoute request.method request.path), response) := by
  have hNone : router.value.find? request.method request.path = none := by
    apply Option.eq_none_iff_forall_ne_some.mpr
    intro found hFound
    exact h _ _ ((find?_eq_some_iff_routed ..).mp hFound)
  have hFind : store.find request.method request.path =
      pure (.failed (.noRoute request.method request.path)) := by
    simp only [store, Router.application, (Router.find_eq_error_iff ..).mpr ⟨rfl, hNone⟩]
  rw [attempt, hFind]
  rfl

/-- Only unknown paths are reported in another way than they failed. -/
theorem amend_store_of_isKept {failure : Failure} (h : failure.IsKept) (request : Request) :
    store.amend failure request = pure (.ok failure) := by
  rw [amend_store]
  cases failure with
  | noRoute method path => exact absurd rfl (h.routed method path)
  | _ => rfl

section Serving

variable {d : Dispatcher RandomSource (RouteMatch RandomSource)} {s s₁ s₂ : RandomSource}
  {request : Request} {response left : Response}

/-- What a handler returns is the response as it left it. -/
theorem serves_returned (hEngages : d.Engages s store s₁)
    (hAttempt : (attempt store request response).result s₁ = ((.returned (), left), s₂)) :
    (d.serve request response).result s = (⟨.ok (), left, ready store⟩, s₂) :=
  (result_serve_iff ..).mpr (.ran hEngages (.answered ((result_attempt_iff ..).mp hAttempt)))

/-- What a handler fails with is put on record unchanged. -/
theorem serves_failed (hEngages : d.Engages s store s₁) {failure : Failure}
    (hKept : failure.IsKept)
    (hAttempt : (attempt store request response).result s₁ = ((.failed failure, left), s₂)) :
    (d.serve request response).result s = (⟨.ok (), left.settled failure, ready store⟩, s₂) := by
  have hAmend : (store.amend failure request).result s₂ = (.ok failure, s₂) := by
    rw [amend_store_of_isKept hKept, Effect.result_pure]
  exact (result_serve_iff ..).mpr (.ran hEngages
    (.recovered ((result_attempt_iff ..).mp hAttempt) (.failure hKept.proper) hAmend))

/-- An unknown path is reported as not found, by its own text. -/
theorem serves_unknown (hEngages : d.Engages s store s₁) (hUnknown : Unknown request) :
    (d.serve request response).result s =
      (⟨.ok (), response.settled (.notFound s!"Nothing here: {request.path}"), ready store⟩,
        s₁) := by
  have hAttempt : (attempt store request response).result s₁ =
      ((.failed (.noRoute request.method request.path), response), s₁) := by
    rw [attempt_of_unknown hUnknown, Effect.result_pure]
  exact (result_serve_iff ..).mpr (.ran hEngages
    (.recovered ((result_attempt_iff ..).mp hAttempt) (.failure nofun) rfl))

end Serving

/-- The status code that a failure is reported with, its text, and the text of the error behind it. -/
inductive Reads : Failure → Nat → String → Option String → Prop where
  | accessDenied (text : String) : Reads (.accessDenied text) 403 text none
  | notFound (text : String) : Reads (.notFound text) 404 text none
  | noRoute (method : Http.Method) (path : String) :
      Reads (.noRoute method path) 404 ("No handler for " ++ method.name ++ " " ++ path) none
  | badRequest (text : String) : Reads (.badRequest text) 400 text none
  | failed (text : String) (cause : Option String) : Reads (.failed text cause) 500 text cause

theorem exists_reads (failure : Failure) : ∃ code text cause, Reads failure code text cause := by
  cases failure with
  | accessDenied text => exact ⟨_, _, _, .accessDenied text⟩
  | notFound text => exact ⟨_, _, _, .notFound text⟩
  | noRoute method path => exact ⟨_, _, _, .noRoute method path⟩
  | badRequest text => exact ⟨_, _, _, .badRequest text⟩
  | failed text cause => exact ⟨_, _, _, .failed text cause⟩

/-- A response that tells of a failure: its text is all there is. -/
structure Refuses (code : Nat) (text : String) (cause : Option String) (response : Response) :
    Prop where
  code : response.status.code = code
  record : response.failure = some ⟨response.status, text, cause⟩
  headers : response.headers = .empty
  body : response.body = Bytes.ofText text

/-- A response that has the usual status and is JSON. -/
structure Succeeds (response : Response) : Prop where
  code : response.status.code = 200
  failure : response.failure = none
  contentType : response.header? "content-type" = some "application/json"

/-- What is sent for what a handler came to on a new response. -/
inductive Tells : Ending Unit × Response → Response → Prop where
  | answered {left : Response} (hSucceeds : Succeeds left) : Tells (.returned (), left) left
  | refused {failure : Failure} {code : Nat} {text : String} {cause : Option String}
      {final : Response} (hReads : Reads failure code text cause)
      (hRefuses : Refuses code text cause final) : Tells (.failed failure, {}) final

/-- A response that is JSON, or that tells of a failure and of nothing else. -/
structure IsWhole (final : Response) : Prop where
  succeeds : final.failure = none → Succeeds final
  refuses : ∀ record, final.failure = some record →
    final.status = record.status ∧ final.headers = .empty ∧
      final.body = Bytes.ofText record.message

theorem Refuses.isWhole {code : Nat} {text : String} {cause : Option String} {final : Response}
    (h : Refuses code text cause final) : IsWhole final where
  succeeds hNone := nomatch hNone.symm.trans h.record
  refuses record hRecord := by
    obtain rfl := Option.some.inj (h.record.symm.trans hRecord)
    exact ⟨rfl, h.headers, h.body⟩

theorem Tells.isWhole {outcome : Ending Unit × Response} {final : Response}
    (h : Tells outcome final) : IsWhole final := by
  cases h with
  | answered hSucceeds => exact ⟨fun _ => hSucceeds, fun _ hRecord =>
      nomatch hSucceeds.failure.symm.trans hRecord⟩
  | refused hReads hRefuses => exact hRefuses.isWhole

/-- A failure that gets to a new response is all that the response tells of. -/
theorem refuses_settled {failure : Failure} {code : Nat} {text : String} {cause : Option String}
    (h : Reads failure code text cause) :
    Refuses code text cause (({} : Response).settled failure) := by
  cases h <;> exact ⟨rfl, rfl, rfl, rfl⟩

theorem succeeds_respond (value : Json) : Succeeds (respond {} value).2 := ⟨rfl, rfl, rfl⟩

/-- The handler of a route decides on what is sent. -/
theorem exists_tells_of_routed {d : Dispatcher RandomSource (RouteMatch RandomSource)}
    {s s₁ : RandomSource} (hEngages : d.Engages s store s₁) {request : Request}
    {handler : Handler RandomSource} {parameters : PathParameters}
    (hRouted : Routed request.method (Path.segments request.path) handler parameters) :
    ∃ outcome final s₂, (handler request parameters {}).result s₁ = (outcome, s₂) ∧
      (d.serve request {}).result s = (⟨.ok (), final, ready store⟩, s₂) ∧
      Tells outcome final := by
  obtain ⟨outcome, s₂, hRun⟩ : ∃ outcome s₂,
      (handler request parameters {}).result s₁ = (outcome, s₂) := ⟨_, _, rfl⟩
  have hFind := (find?_eq_some_iff_routed _ _ ⟨handler, parameters⟩).mpr hRouted
  have hClean := clean_of_find hFind request {} s₁
  have hAttempt := hRun
  rw [← attempt_of_routed hRouted] at hAttempt
  rw [hRun] at hClean
  cases hClean with
  | answered value =>
      exact ⟨_, _, s₂, hRun, serves_returned hEngages hAttempt, .answered (succeeds_respond value)⟩
  | @refused failure hKept =>
      obtain ⟨code, text, cause, hReads⟩ := exists_reads failure
      exact ⟨_, _, s₂, hRun, serves_failed hEngages hKept hAttempt,
        .refused hReads (refuses_settled hReads)⟩

/-- What the pet store makes of a request on a new response, by the route that is for it. -/
structure Follows (request : Request) (s : RandomSource) (final : Response) (s' : RandomSource) :
    Prop where
  routed : ∀ handler parameters,
    Routed request.method (Path.segments request.path) handler parameters →
    ∃ outcome, (handler request parameters {}).result s = (outcome, s') ∧ Tells outcome final
  denied : request.method = .get → Path.segments request.path = ["foo"] →
    Refuses 403 "Can't touch this" none final
  unknown : Unknown request → Refuses 404 ("Nothing here: " ++ request.path) none final
  whole : IsWhole final

/-- There is a response to every request, and it follows the table. -/
theorem exists_follows (request : Request) (s : RandomSource) :
    ∃ final s', ((ready store).serve request {}).result s = (⟨.ok (), final, ready store⟩, s') ∧
      Follows request s final s' := by
  by_cases hUnknown : Unknown request
  · have hReads : Reads (.notFound ("Nothing here: " ++ request.path)) 404 _ none := .notFound _
    have hRefuses := refuses_settled hReads
    refine ⟨_, s, serves_unknown (.running store s) hUnknown, ?_, ?_, fun _ => hRefuses,
      hRefuses.isWhole⟩
    · intro handler parameters hRouted
      exact absurd hRouted (hUnknown handler parameters)
    · intro hMethod hPath
      exact absurd (hMethod ▸ hPath ▸ .denyAccess) (hUnknown denyAccess [])
  · obtain ⟨handler, parameters, hRouted⟩ : ∃ handler parameters,
        Routed request.method (Path.segments request.path) handler parameters := by
      simpa [Unknown] using hUnknown
    obtain ⟨outcome, final, s', -, hServe, hTells⟩ :=
      exists_tells_of_routed (.running store s) hRouted
    -- Whichever route is for the request, its handler accounts for this one run.
    have hFollows : ∀ handler parameters,
        Routed request.method (Path.segments request.path) handler parameters →
        ∃ outcome, (handler request parameters {}).result s = (outcome, s') ∧
          Tells outcome final := by
      intro handler parameters hRouted
      obtain ⟨outcome, other, s₂, hRun, hOther, hTells⟩ :=
        exists_tells_of_routed (.running store s) hRouted
      cases hServe.symm.trans hOther
      exact ⟨outcome, hRun, hTells⟩
    refine ⟨final, s', hServe, hFollows, ?_, fun h => absurd h hUnknown, hTells.isWhole⟩
    intro hMethod hPath
    obtain ⟨outcome, hRun, hTells⟩ := hFollows denyAccess [] (hMethod ▸ hPath ▸ .denyAccess)
    cases hRun
    cases hTells with
    | refused hReads hRefuses =>
        cases hReads
        exact hRefuses

/-- No method and path have two of the routes, so the order of registration does not count. A request
goes to the handler of its route, or is refused with its path as it was written. The message of a
failure is all that is sent with it, and everything else that is sent is JSON. -/
theorem serve_follows (request : Request) (s : RandomSource) :
    (router.value.routes.Pairwise fun route other =>
      ∀ method path, ¬(route.Matches method path ∧ other.Matches method path)) ∧
    (∀ configurations : List (Configuration RandomSource),
      configurations.flatten.Perm (routes ++ errors) →
      (Router.ofConfigurations configurations).value.application = store) ∧
    ∃ final s', ((ready store).serve request {}).result s = (⟨.ok (), final, ready store⟩, s') ∧
      Follows request s final s' := by
  refine ⟨apart_routes.imp fun hApart method path h => ?_,
    fun configurations => application_eq_store_of_perm, exists_follows request s⟩
  exact hApart.not_matches h.1 h.2

/-- A supply of octets that are all zero. -/
def zeroSource : RandomSource where
  octet _ := 0
  drawn := 0

/-- A request for something below a pet. -/
def toysRequest : Request := { method := .get, path := "//pets/7//toys/" }

/-- A request for a pet with an identifier that no pet has. -/
def strayRequest : Request := { method := .get, path := "//pets//x-1" }

theorem serve_follows_toysRequest :
    Refuses 404 "Nothing here: //pets/7//toys/" none
      (((ready store).serve toysRequest {}).result zeroSource).1.response ∧
    Refuses 404 "No such Dog" none
      (((ready store).serve strayRequest {}).result zeroSource).1.response := by
  constructor
  · obtain ⟨-, -, final, s', hServe, hFollows⟩ := serve_follows toysRequest zeroSource
    have hLong : 2 < (Path.segments toysRequest.path).length := by decide
    rw [hServe]
    apply hFollows.unknown
    intro handler parameters hRouted
    exact absurd hRouted.length_le (Nat.not_le.mpr hLong)
  · obtain ⟨-, -, final, s', hServe, hFollows⟩ := serve_follows strayRequest zeroSource
    have hSegments : Path.segments strayRequest.path = ["pets", "x-1"] := by decide
    rw [hServe]
    obtain ⟨outcome, hRun, hTells⟩ := hFollows.routed visit [("id", "x-1")] (hSegments ▸ .visit _)
    cases hRun
    cases hTells with
    | refused hReads hRefuses =>
        cases hReads
        exact hRefuses

end PetStore

end InvocationBridge
