import InvocationBridge.Proofs.Web.Composition
import InvocationBridge.Proofs.Web.Patterns

/-!
Routers of which no two routes are for one method and path.

`Apart` compares patterns segment by segment, and no path matches two that are apart. A router whose
routes are all apart finds the same whichever order they are in.
-/

namespace InvocationBridge

section AtMostOne

variable {α β : Type} {give : α → Option β} {items others : List α}

/-- If at most one item gives a result, then the first result is that of any item. -/
theorem findSome?_eq_some_iff_of_pairwise
    (hOne : items.Pairwise fun item other => give item = none ∨ give other = none) (b : β) :
    items.findSome? give = some b ↔ ∃ item ∈ items, give item = some b := by
  induction items with
  | nil => simp
  | cons item items ih =>
      obtain ⟨hItem, hRest⟩ := List.pairwise_cons.mp hOne
      cases hGive : give item with
      | none => simp [hGive, ih hRest]
      | some a =>
          -- This item is found first, and it is the only one that gives anything.
          have hOthers : ∀ other ∈ items, give other = none := by
            intro other hOther
            exact (hItem other hOther).resolve_left (by simp [hGive])
          rw [List.findSome?_cons, hGive]
          constructor
          · rintro ⟨rfl⟩
            exact ⟨item, List.mem_cons_self, hGive⟩
          · rintro ⟨other, hOther, hGives⟩
            rcases List.mem_cons.mp hOther with rfl | hOther
            · exact hGive.symm.trans hGives
            · cases (hOthers other hOther).symm.trans hGives

/-- Where one item at most gives anything, the order in which they are tried does not count. -/
theorem findSome?_eq_of_perm
    (hOne : items.Pairwise fun item other => give item = none ∨ give other = none)
    (hPerm : others.Perm items) : others.findSome? give = items.findSome? give := by
  have hOthers : others.Pairwise fun item other => give item = none ∨ give other = none :=
    hOne.perm hPerm.symm Or.symm
  apply Option.ext
  intro b
  rw [findSome?_eq_some_iff_of_pairwise hOne, findSome?_eq_some_iff_of_pairwise hOthers]
  simp only [hPerm.mem_iff]

end AtMostOne

namespace Path

/-- Two segments that take no word in common. -/
def Segment.Differs : Segment → Segment → Prop
  | .literal text, .literal other => text ≠ other
  | _, _ => False

namespace Pattern

/-- Patterns that have different literals at one place, or that differ in length. -/
def Apart : Pattern → Pattern → Prop
  | [], others => others ≠ []
  | _ :: _, [] => True
  | segment :: pattern, other :: others => segment.Differs other ∨ Apart pattern others

/-- A word cannot be taken by two segments that differ. -/
theorem Takes.not_differs {segment other : Segment} {word : String}
    {parameters taken captured others : PathParameters} (h : Takes segment parameters word taken)
    (hOther : Takes other captured word others) : ¬segment.Differs other := by
  intro hDiffers
  cases h with
  | parameter => exact hDiffers
  | literal =>
      cases hOther with
      | parameter => exact hDiffers
      | literal => exact hDiffers rfl

/-- Patterns that differ at some place, or in their lengths, match no path in common. -/
theorem Apart.not_match {pattern others : Pattern} {parameters captured : PathParameters}
    {words : List String} {result other : PathParameters} (h : Apart pattern others)
    (hMatch : matchSegments parameters pattern words = some result) :
    matchSegments captured others words ≠ some other := by
  intro hOther
  induction pattern generalizing others parameters captured words with
  | nil =>
      obtain ⟨rfl, -⟩ := (matchSegments_nil_eq_some_iff ..).mp hMatch
      obtain ⟨segment, pattern, rfl⟩ := List.exists_cons_of_ne_nil h
      obtain ⟨word, rest, taken, hWords, -⟩ := (matchSegments_cons_eq_some_iff ..).mp hOther
      cases hWords
  | cons segment pattern ih =>
      obtain ⟨word, rest, taken, rfl, hTakes, hRest⟩ := (matchSegments_cons_eq_some_iff ..).mp hMatch
      cases others with
      | nil =>
          obtain ⟨hWords, -⟩ := (matchSegments_nil_eq_some_iff ..).mp hOther
          cases hWords
      | cons second others =>
          obtain ⟨_, _, _, hWords, hSecond, hOthers⟩ :=
            (matchSegments_cons_eq_some_iff ..).mp hOther
          obtain ⟨rfl, rfl⟩ := List.cons.inj hWords
          rcases h with hDiffers | hApart
          · exact hTakes.not_differs hSecond hDiffers
          · exact ih hApart hRest hOthers

end Pattern

end Path

/-- A route is for a method and a path. -/
structure Route.Matches {σ : Type} (route : Route σ) (method : Http.Method) (path : String) :
    Prop where
  method : route.method = method
  path : ∃ parameters, route.pattern.match? path = some parameters

/-- Two routes for different methods, or with patterns that are apart. -/
def Route.Apart {σ : Type} (route other : Route σ) : Prop :=
  route.method ≠ other.method ∨ route.pattern.Apart other.pattern

namespace Route

variable {σ : Type} {route other : Route σ} {method : Http.Method} {path : String}

theorem match?_eq_none_iff : route.match? method path = none ↔ ¬route.Matches method path := by
  rw [Option.eq_none_iff_forall_ne_some]
  constructor
  · intro hNone hMatches
    obtain ⟨parameters, hPath⟩ := hMatches.path
    exact hNone ⟨route.handler, parameters⟩ (match?_eq_some_iff.mpr ⟨hMatches.method, rfl, hPath⟩)
  · intro hMatches found hFound
    obtain ⟨hMethod, -, hPath⟩ := match?_eq_some_iff.mp hFound
    exact hMatches ⟨hMethod, _, hPath⟩

/-- No request is on two routes that are apart. -/
theorem Apart.not_matches (h : route.Apart other) (hMatches : route.Matches method path) :
    ¬other.Matches method path := by
  intro hOther
  obtain ⟨parameters, hPath⟩ := hMatches.path
  obtain ⟨captured, hOtherPath⟩ := hOther.path
  rcases h with hMethods | hApart
  · exact hMethods (hMatches.method.trans hOther.method.symm)
  · exact hApart.not_match hPath hOtherPath

end Route

namespace Router

variable {σ : Type} {router : Router σ}

theorem pairwise_match?_of_apart (hApart : router.routes.Pairwise Route.Apart)
    (method : Http.Method) (path : String) :
    router.routes.Pairwise fun route other =>
      route.match? method path = none ∨ other.match? method path = none := by
  refine hApart.imp fun hApart => ?_
  simp only [Route.match?_eq_none_iff]
  exact Classical.not_and_iff_not_or_not.mp fun h => hApart.not_matches h.1 h.2

/-- In a table whose routes are apart, the first route that matches is the only one. -/
theorem find?_eq_some_iff_of_apart (hApart : router.routes.Pairwise Route.Apart)
    (method : Http.Method) (path : String) (found : RouteMatch σ) :
    router.find? method path = some found ↔
      ∃ route ∈ router.routes, route.match? method path = some found := by
  rw [find?_eq_findSome?,
    findSome?_eq_some_iff_of_pairwise (pairwise_match?_of_apart hApart method path)]

/-- Configurations that register the same routes in any order, and the same error handlers in the
same order, make the same application as a router whose routes are apart. -/
theorem application_ofConfigurations_of_apart (hApart : router.routes.Pairwise Route.Apart)
    {configurations : List (Configuration σ)}
    (hRoutes : (configurations.flatten.filterMap Registration.route?).Perm router.routes)
    (hErrors : configurations.flatten.filterMap Registration.errorHandler? =
      router.errorHandlers) :
    (ofConfigurations configurations).value.application = router.application := by
  have hFind : (ofConfigurations configurations).value.find = router.find := by
    funext method path
    have hPairwise := pairwise_match?_of_apart hApart method path
    rw [find, find, find?_eq_findSome?, find?_eq_findSome?, value_ofConfigurations,
      findSome?_eq_of_perm hPairwise hRoutes]
  have hAmend : (ofConfigurations configurations).value.amend = router.amend := by
    rw [amend, amend, value_ofConfigurations, hErrors]
  simp only [application, hFind, hAmend]

end Router

end InvocationBridge
