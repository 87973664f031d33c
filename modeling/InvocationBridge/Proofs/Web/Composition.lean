import InvocationBridge.Proofs.Web.Resolution

/-!
How routers are put together.

A router comes down to the routes and the error handlers of its configurations, each in order. So the
router of two lists of configurations tries the routes of the first list and then those of the
second, and its error handlers are those of the first and then those of the second. A builder keeps
nothing of what it built before.
-/

namespace InvocationBridge

/-- The error handler that a registration brings, if it is one. -/
def Registration.errorHandler? {σ : Type} : Registration σ → Option (ErrorHandler σ)
  | .route _ => none
  | .errorHandler handler => some handler

namespace Router

variable {σ : Type}

/-- Configurations that bring the same routes in the same order, and the same error handlers in the
same order. How they are grouped and mixed is left open. -/
structure Regroups (configurations others : List (Configuration σ)) : Prop where
  routes : others.flatten.filterMap Registration.route? =
    configurations.flatten.filterMap Registration.route?
  errorHandlers : others.flatten.filterMap Registration.errorHandler? =
    configurations.flatten.filterMap Registration.errorHandler?

/-- Build a router after each batch of configurations, with one builder for all of them. -/
def releaseAll (builder : Router σ) :
    List (List (Configuration σ)) → Logged (List (Router σ) × Router σ)
  | [] => return ([], builder)
  | batch :: batches => do
    let (router, builder) ← release (batch.foldl configure builder)
    let (routers, builder) ← releaseAll builder batches
    return (router :: routers, builder)

/-- A configuration adds its error handlers behind those that are there. -/
theorem errorHandlers_configure (router : Router σ) (configuration : Configuration σ) :
    (router.configure configuration).errorHandlers =
      router.errorHandlers ++ configuration.filterMap Registration.errorHandler? := by
  induction configuration generalizing router with
  | nil => simp [configure]
  | cons registration registrations ih =>
      have hRest := ih (router.register registration)
      cases registration with
      | route line =>
          rw [List.filterMap_cons_none rfl]
          exact hRest
      | errorHandler handler =>
          simpa [configure, register, Registration.errorHandler?] using hRest

/-- Configurations add theirs in turn. The induction is on the configurations, over any router
to start with. -/
theorem errorHandlers_foldl_configure (configurations : List (Configuration σ))
    (router : Router σ) :
    (configurations.foldl configure router).errorHandlers =
      router.errorHandlers ++ configurations.flatten.filterMap Registration.errorHandler? := by
  induction configurations generalizing router with
  | nil => simp
  | cons configuration configurations ih =>
      rw [List.foldl_cons, ih, errorHandlers_configure, List.flatten_cons, List.filterMap_append,
        List.append_assoc]

/-- Configurations add their routes and their error handlers to what a builder has. -/
theorem foldl_configure_eq (configurations : List (Configuration σ)) (router : Router σ) :
    configurations.foldl configure router =
      ⟨router.routes ++ configurations.flatten.filterMap Registration.route?,
        router.errorHandlers ++ configurations.flatten.filterMap Registration.errorHandler?⟩ := by
  rw [← routes_foldl_configure, ← errorHandlers_foldl_configure]

/-- A router of configurations has all their routes and error handlers, in order, and
nothing else. -/
theorem value_ofConfigurations (configurations : List (Configuration σ)) :
    (ofConfigurations configurations).value =
      ⟨configurations.flatten.filterMap Registration.route?,
        configurations.flatten.filterMap Registration.errorHandler?⟩ :=
  foldl_configure_eq configurations {}

/-- How registrations are grouped into configurations does not matter, as long as routes and error
handlers keep their orders. -/
theorem ofConfigurations_congr {configurations others : List (Configuration σ)}
    (h : Regroups configurations others) :
    ofConfigurations others = ofConfigurations configurations := by
  rw [ofConfigurations, ofConfigurations, foldl_configure_eq, foldl_configure_eq, h.routes,
    h.errorHandlers]

/-- Routes of earlier configurations come first, and those of later ones are the rest. -/
theorem find?_ofConfigurations_append (before after : List (Configuration σ))
    (method : Http.Method) (path : String) :
    (ofConfigurations (before ++ after)).value.find? method path =
      ((ofConfigurations before).value.find? method path).or
        ((ofConfigurations after).value.find? method path) := by
  simp only [find?, value_ofConfigurations, List.flatten_append, List.filterMap_append,
    List.findSome?_append]

/-- Error handlers one after the other: the later ones get what the earlier ones made of a failure,
and do not run if one of those panicked. -/
theorem amendWith_append (handlers others : List (ErrorHandler σ)) (failure : Failure)
    (request : Request) :
    amendWith (handlers ++ others) failure request = do
      match ← amendWith handlers failure request with
      | .ok amended => amendWith others amended request
      | .error panic => return .error panic := by
  induction handlers generalizing failure with
  | nil =>
      rw [List.nil_append, amendWith, pure_bind]
  | cons handler rest ih =>
      rw [List.cons_append, amendWith, amendWith, bind_assoc]
      apply bind_congr
      intro handled
      cases handled with
      | ok amended => exact ih amended
      | error panic => rw [pure_bind]

/-- A builder is empty after it built a router. -/
theorem release_bind {α : Type} (registered : Router σ) (later : Router σ × Router σ → Logged α) :
    release registered >>= later = release registered >>= fun built => later (built.1, {}) :=
  rfl

/-- A builder that was released starts over, so that each batch gets a router of its own. -/
theorem releaseAll_empty (batches : List (List (Configuration σ))) :
    releaseAll {} batches = do return (← batches.mapM ofConfigurations, {}) := by
  induction batches with
  | nil => rfl
  | cons batch batches ih =>
      rw [releaseAll, release_bind, List.mapM_cons, ofConfigurations]
      simp only [ih, bind_assoc, pure_bind]

/-- What a builder is left with before the first router makes no difference to any later one. -/
theorem releaseAll_cons (builder : Router σ) (batch : List (Configuration σ))
    (batches : List (List (Configuration σ))) :
    releaseAll builder (batch :: batches) = do
      let (router, _) ← release (batch.foldl configure builder)
      return (router :: (← batches.mapM ofConfigurations), {}) := by
  rw [releaseAll, release_bind]
  simp only [releaseAll_empty, bind_assoc, pure_bind]

/-- The router of two lists of configurations finds what that of the first list finds, and otherwise
what that of the second one finds. Its error handling is that of the second after that of the first.
Only the order of the routes and the order of the error handlers count, and every router that a
builder releases has what was registered since the one before it. -/
theorem ofConfigurations_composes (before after : List (Configuration σ)) :
    let first := (ofConfigurations before).value
    let second := (ofConfigurations after).value
    let router := (ofConfigurations (before ++ after)).value
    (∀ method path,
      (∀ found, first.find method path = .ok found → router.find method path = .ok found) ∧
      ∀ failure, first.find method path = .error failure →
        router.find method path = second.find method path) ∧
    (∀ failure request, router.amend failure request = do
      match ← first.amend failure request with
      | .ok amended => second.amend amended request
      | .error panic => return .error panic) ∧
    (∀ configurations others : List (Configuration σ), Regroups configurations others →
      ofConfigurations others = ofConfigurations configurations) ∧
    ∀ (builder : Router σ) (batch : List (Configuration σ))
      (batches : List (List (Configuration σ))),
      releaseAll builder (batch :: batches) = do
        let (router, _) ← release (batch.foldl configure builder)
        return (router :: (← batches.mapM ofConfigurations), {}) := by
  intro first second router
  refine ⟨fun method path => ⟨fun found hFound => ?_, fun failure hFailure => ?_⟩, ?_,
    fun _ _ => ofConfigurations_congr, releaseAll_cons⟩
  · rw [find_eq_ok_iff] at hFound ⊢
    rw [find?_ofConfigurations_append, hFound, Option.some_or]
  · obtain ⟨-, hNone⟩ := (find_eq_error_iff ..).mp hFailure
    rw [find, find, find?_ofConfigurations_append, hNone, Option.none_or]
  · intro failure request
    have hHandlers : router.errorHandlers = first.errorHandlers ++ second.errorHandlers := by
      simp only [router, first, second, value_ofConfigurations, List.flatten_append,
        List.filterMap_append]
    rw [amend, hHandlers]
    exact amendWith_append ..

/-- A handler that writes one octet. -/
def writing (octet : UInt8) : Handler Unit :=
  fun _ _ response => pure (.returned (), response.write [octet])

/-- An error handler that adds to the message of a failure. -/
def labelling (label : String) : ErrorHandler Unit :=
  fun failure _ => pure (.ok (.notFound (failure.message ++ label)))

/-- A route for everything of one segment. -/
def broad : List (Configuration Unit) :=
  [[.on .get "/{any}" (writing 1), .errorHandler (labelling ", said one")]]

/-- Two routes, one of them for something that the broad route is for as well. -/
def narrow : List (Configuration Unit) :=
  [[.on .get "/pets" (writing 2)],
    [.errorHandler (labelling ", said two"), .on .get "/a/b" (writing 3)]]

/-- The routes and error handlers of both, in one configuration each. -/
def mixed : List (Configuration Unit) :=
  [[.errorHandler (labelling ", said one"), .errorHandler (labelling ", said two")],
    [.on .get "/{any}" (writing 1), .on .get "/pets" (writing 2), .on .get "/a/b" (writing 3)]]

theorem ofConfigurations_broad_narrow :
    let router := (ofConfigurations (broad ++ narrow)).value
    router.find .get "/pets" = .ok ⟨writing 1, [("any", "pets")]⟩ ∧
    router.find .get "/a/b" = .ok ⟨writing 3, []⟩ ∧
    (router.amend (.failed "Lost" none) { method := .get, path := "/" }).result () =
      (.ok (.notFound "Lost, said one, said two"), ()) ∧
    ofConfigurations mixed = ofConfigurations (broad ++ narrow) ∧
    (releaseAll {} [broad, narrow]).value.1[1]? = some (ofConfigurations narrow).value := by
  obtain ⟨hFind, hAmend, hRegroups, hRelease⟩ := ofConfigurations_composes broad narrow
  refine ⟨(hFind .get "/pets").1 _ rfl, ?_, ?_, hRegroups _ _ ⟨rfl, rfl⟩, ?_⟩
  · rw [(hFind .get "/a/b").2 _ rfl]
    rfl
  · rw [hAmend]
    rfl
  · rw [hRelease]
    rfl

end Router

end InvocationBridge
