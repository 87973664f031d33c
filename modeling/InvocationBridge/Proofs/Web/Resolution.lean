import InvocationBridge.Proofs.Web.Segments
import InvocationBridge.PetStore.Routes

/-!
Which route a router finds, and with which parameters.

`Fits` compares a pattern with a path segment by segment, and `Captures` says what the parameters
are after that. The router finds the first line of its table that fits.
-/

namespace InvocationBridge

namespace Path

/-- The segments of a path fit those of a pattern: there are as many, and those of the pattern that
are no parameters are the same in the path. -/
structure Fits (pattern path : List String) : Prop where
  length : pattern.length = path.length
  literals : ∀ pair ∈ pattern.zip path, (∀ name, ¬ Names pair.1 name) → pair.1 = pair.2

/-- Of segments of a pattern, each with the segment of a path beside it, the last that is the
parameter `name` has `value` beside it. -/
def LastNames (pairs : List (String × String)) (name value : String) : Prop :=
  ∃ before segment after, pairs = before ++ (segment, value) :: after ∧ Names segment name ∧
    ∀ later ∈ after, ¬ Names later.1 name

/-- Each parameter of a pattern, and nothing else, has the segment of the path at the last place
where it is named. -/
structure Captures (pattern path : List String) (parameters : PathParameters) : Prop where
  sorted : parameters.Sorted
  names : ∀ name, parameters.contains name ↔ ∃ segment ∈ pattern, Names segment name
  values : ∀ name value, parameters.get? name = some value ↔
    LastNames (pattern.zip path) name value

theorem not_fits_nil_cons (word : String) (words : List String) : ¬ Fits [] (word :: words) :=
  fun h => nomatch h.length

theorem not_fits_cons_nil (text : String) (texts : List String) : ¬ Fits (text :: texts) [] :=
  fun h => nomatch h.length

theorem fits_nil : Fits [] [] := ⟨rfl, by simp⟩

/-- A segment in front fits if it is a parameter, or a literal that is equal to the word. -/
theorem fits_cons_iff (text word : String) (texts words : List String) :
    Fits (text :: texts) (word :: words) ↔
      ((∀ name, ¬ Names text name) → text = word) ∧ Fits texts words := by
  constructor
  · rintro ⟨hLength, hLiterals⟩
    obtain ⟨hFirst, hRest⟩ := List.forall_mem_cons.mp hLiterals
    exact ⟨hFirst, Nat.succ.inj hLength, hRest⟩
  · rintro ⟨hFirst, hLength, hRest⟩
    exact ⟨congrArg Nat.succ hLength, List.forall_mem_cons.mpr ⟨hFirst, hRest⟩⟩

/-- Set the parameter that a segment of a pattern names, if it names one. -/
def capture (parameters : PathParameters) (pair : String × String) : PathParameters :=
  match Segment.parse pair.1 with
  | .parameter name => parameters.insert name pair.2
  | .literal _ => parameters

/-- A parameter captures its word, over an earlier one of the same name. -/
theorem capture_of_names {text name : String} (h : Names text name) (parameters : PathParameters)
    (word : String) : capture parameters (text, word) = parameters.insert name word := by
  simp [capture, (parse_eq_parameter_iff text name).mpr h]

theorem capture_of_literal {text : String} (h : ∀ name, ¬ Names text name)
    (parameters : PathParameters) (word : String) :
    capture parameters (text, word) = parameters := by
  simp [capture, (parse_eq_literal_iff text text).mpr ⟨rfl, h⟩]

/-- Matching is fitting, and the parameters are captured from left to right. The two are
independent of each other. -/
theorem matchSegments_eq_some_iff (texts words : List String)
    (parameters result : PathParameters) :
    Pattern.matchSegments parameters (texts.map Segment.parse) words = some result ↔
      Fits texts words ∧ (texts.zip words).foldl capture parameters = result := by
  induction texts generalizing words parameters with
  | nil =>
      cases words with
      | nil => simp [Pattern.matchSegments, fits_nil]
      | cons word words => simp [Pattern.matchSegments, not_fits_nil_cons]
  | cons text texts ih =>
      cases words with
      | nil => simp [Pattern.matchSegments, not_fits_cons_nil]
      | cons word words =>
          rw [List.map_cons, List.zip_cons_cons, List.foldl_cons, fits_cons_iff]
          cases hText : Segment.parse text with
          | literal expected =>
              obtain ⟨rfl, hLiteral⟩ := (parse_eq_literal_iff text expected).mp hText
              rw [Pattern.matchSegments, capture_of_literal hLiteral]
              by_cases hWord : text = word
              · rw [if_pos hWord, ih]
                simp [hWord]
              · rw [if_neg hWord]
                simp [hWord, hLiteral]
          | parameter name =>
              have hNames := (parse_eq_parameter_iff text name).mp hText
              have hFree : (∀ name, ¬ Names text name) → text = word :=
                fun hLiteral => absurd hNames (hLiteral name)
              rw [Pattern.matchSegments, capture_of_names hNames, ih]
              rw [and_iff_right hFree]

theorem not_lastNames_nil (name value : String) : ¬ LastNames [] name value := by
  rintro ⟨before, segment, after, hPairs, -⟩
  simp at hPairs

/-- A pair in front has the last say on a name only if no later one names it. -/
theorem lastNames_cons_iff (pair : String × String) (pairs : List (String × String))
    (name value : String) :
    LastNames (pair :: pairs) name value ↔
      LastNames pairs name value ∨
        (∀ later ∈ pairs, ¬ Names later.1 name) ∧ Names pair.1 name ∧ pair.2 = value := by
  constructor
  · rintro ⟨before, segment, after, hPairs, hNames, hLast⟩
    cases before with
    | nil =>
        obtain ⟨rfl, rfl⟩ := List.cons.inj hPairs
        exact .inr ⟨hLast, hNames, rfl⟩
    | cons first before =>
        obtain ⟨rfl, rfl⟩ := List.cons.inj hPairs
        exact .inl ⟨before, segment, after, rfl, hNames, hLast⟩
  · rintro (⟨before, segment, after, rfl, hNames, hLast⟩ | ⟨hLast, hNames, rfl⟩)
    · exact ⟨pair :: before, segment, after, rfl, hNames, hLast⟩
    · exact ⟨[], pair.1, pairs, rfl, hNames, hLast⟩

/-- A capture changes the value of one name at most. -/
theorem get?_capture_eq_some_iff (parameters : PathParameters) (pair : String × String)
    (name value : String) :
    (capture parameters pair).get? name = some value ↔
      Names pair.1 name ∧ pair.2 = value ∨
        ¬ Names pair.1 name ∧ parameters.get? name = some value := by
  obtain ⟨segment, word⟩ := pair
  cases hSegment : Segment.parse segment with
  | literal text =>
      obtain ⟨-, hLiteral⟩ := (parse_eq_literal_iff segment text).mp hSegment
      simp [capture_of_literal hLiteral, hLiteral]
  | parameter own =>
      have hOwn := (parse_eq_parameter_iff segment own).mp hSegment
      rw [capture_of_names hOwn, Fields.get?_insert]
      by_cases hName : name = own
      · simp [hName, hOwn]
      · have hOther : ¬ Names segment name := fun h => hName (h.unique hOwn)
        simp [hName, hOther]

/-- Captures go on from the parameters so far, and the later one counts. -/
theorem get?_foldl_capture_eq_some_iff (pairs : List (String × String))
    (parameters : PathParameters) (name value : String) :
    (pairs.foldl capture parameters).get? name = some value ↔
      LastNames pairs name value ∨
        (∀ pair ∈ pairs, ¬ Names pair.1 name) ∧ parameters.get? name = some value := by
  induction pairs generalizing parameters with
  | nil => simp [not_lastNames_nil]
  | cons pair pairs ih =>
      rw [List.foldl_cons, ih, get?_capture_eq_some_iff, lastNames_cons_iff, List.forall_mem_cons]
      grind

theorem sorted_foldl_capture (pairs : List (String × String)) {parameters : PathParameters}
    (h : parameters.Sorted) : (pairs.foldl capture parameters).Sorted := by
  induction pairs generalizing parameters with
  | nil => exact h
  | cons pair pairs ih =>
      refine ih ?_
      unfold capture
      split
      · exact Fields.sorted_insert _ _ h
      · exact h

/-- A name has a last value as soon as any segment names it. -/
theorem exists_lastNames_iff (pairs : List (String × String)) (name : String) :
    (∃ value, LastNames pairs name value) ↔ ∃ pair ∈ pairs, Names pair.1 name := by
  induction pairs with
  | nil => simp [not_lastNames_nil]
  | cons pair pairs ih =>
      simp only [lastNames_cons_iff, exists_or, ih, List.mem_cons, exists_eq_or_imp]
      constructor
      · rintro (hLater | ⟨value, -, hNames, -⟩)
        · exact .inr hLater
        · exact .inl hNames
      · intro h
        by_cases hLater : ∃ later ∈ pairs, Names later.1 name
        · exact .inl hLater
        · have hLast : ∀ later ∈ pairs, ¬ Names later.1 name :=
            fun later hMem hNames => hLater ⟨later, hMem, hNames⟩
          exact .inr ⟨pair.2, hLast, h.resolve_right hLater, rfl⟩

/-- Captures from left to right leave the last value of each name. -/
theorem captures_foldl_capture {pattern path : List String}
    (hLength : pattern.length = path.length) :
    Captures pattern path ((pattern.zip path).foldl capture []) := by
  have hValues : ∀ name value,
      ((pattern.zip path).foldl capture []).get? name = some value ↔
        LastNames (pattern.zip path) name value := by
    intro name value
    simp [get?_foldl_capture_eq_some_iff, Fields.get?]
  refine ⟨sorted_foldl_capture _ List.Pairwise.nil, fun name => ?_, hValues⟩
  rw [Fields.contains, Option.isSome_iff_exists]
  simp only [hValues, exists_lastNames_iff]
  -- As long as the path is, no segment of the pattern is lost in the pairs.
  have hFirsts : (pattern.zip path).map Prod.fst = pattern :=
    List.map_fst_zip (Nat.le_of_eq hLength)
  constructor
  · rintro ⟨pair, hPair, hNames⟩
    exact ⟨pair.1, hFirsts ▸ List.mem_map_of_mem hPair, hNames⟩
  · rintro ⟨segment, hSegment, hNames⟩
    rw [← hFirsts] at hSegment
    obtain ⟨pair, hPair, rfl⟩ := List.mem_map.mp hSegment
    exact ⟨pair, hPair, hNames⟩

/-- There is one way to capture the parameters of a path. -/
theorem Captures.unique {pattern path : List String} {parameters others : PathParameters}
    (h : Captures pattern path parameters) (hOthers : Captures pattern path others) :
    parameters = others :=
  Fields.eq_of_get?_eq h.sorted hOthers.sorted fun name =>
    Option.ext fun value => (h.values name value).trans (hOthers.values name value).symm

/-- A pattern matches a path exactly if the segments fit, and gives what these capture. -/
theorem match?_parse_eq_some_iff (pattern path : String) (parameters : PathParameters) :
    (Pattern.parse pattern).match? path = some parameters ↔
      Fits (segments pattern) (segments path) ∧
        Captures (segments pattern) (segments path) parameters := by
  rw [Pattern.match?, Pattern.parse, matchSegments_eq_some_iff]
  refine and_congr_right fun hFits => ⟨?_, fun hCaptures => ?_⟩
  · rintro rfl
    exact captures_foldl_capture hFits.length
  · exact (captures_foldl_capture hFits.length).unique hCaptures

example : (Pattern.parse "/{id}/of/{id}").match? "//a/of//b" = some [("id", "b")] := rfl

end Path

/-- What a route gives for a method and a path. -/
def Route.match? {σ : Type} (route : Route σ) (method : Http.Method) (path : String) :
    Option (RouteMatch σ) :=
  if route.method = method then
    (route.pattern.match? path).map fun parameters => ⟨route.handler, parameters⟩
  else none

/-- A route adds the method to the pattern, and hands on its own handler. -/
theorem Route.match?_eq_some_iff {σ : Type} {route : Route σ} {method : Http.Method}
    {path : String} {found : RouteMatch σ} :
    route.match? method path = some found ↔
      route.method = method ∧ route.handler = found.handler ∧
        route.pattern.match? path = some found.parameters := by
  rw [match?, Option.ite_none_right_eq_some, Option.map_eq_some_iff]
  refine and_congr_right fun _ => ⟨?_, ?_⟩
  · rintro ⟨parameters, hPath, rfl⟩
    exact ⟨rfl, hPath⟩
  · rintro ⟨hHandler, hPath⟩
    exact ⟨_, hPath, by rw [hHandler]⟩

theorem Router.find?_eq_findSome? {σ : Type} (router : Router σ) (method : Http.Method)
    (path : String) :
    router.find? method path = router.routes.findSome? (Route.match? · method path) := rfl

/-- A line of a table of routes, as an application writes it. -/
structure Router.Entry (σ : Type) where
  method : Http.Method
  pattern : String
  handler : Handler σ

namespace Router.Entry

variable {σ : Type}

def route (entry : Entry σ) : Route σ :=
  ⟨entry.method, Path.Pattern.parse entry.pattern, entry.handler⟩

/-- What counts of a line: its method, the words of its pattern, and its handler. -/
def outline (entry : Entry σ) : Http.Method × (List String → Prop) × Handler σ :=
  (entry.method, Path.Divides entry.pattern, entry.handler)

/-- A line is for the method, and the words of its pattern fit those of the path. -/
structure Serves (entry : Entry σ) (method : Http.Method) (path : String) : Prop where
  method : entry.method = method
  fits : ∃ pattern words, Path.Divides entry.pattern pattern ∧ Path.Divides path words ∧
    Path.Fits pattern words

/-- The parameters that the pattern of a line takes from the words of a path. -/
def Captures (entry : Entry σ) (path : String) (parameters : PathParameters) : Prop :=
  ∃ pattern words, Path.Divides entry.pattern pattern ∧ Path.Divides path words ∧
    Path.Captures pattern words parameters

/-- An entry serves a path by the segments of both, which are the only way to divide them. -/
theorem serves_iff (entry : Entry σ) (method : Http.Method) (path : String) :
    entry.Serves method path ↔
      entry.method = method ∧ Path.Fits (Path.segments entry.pattern) (Path.segments path) := by
  constructor
  · intro h
    exact ⟨h.method, Path.exists_divides_iff.mp h.fits⟩
  · intro ⟨hMethod, hFits⟩
    exact ⟨hMethod, Path.exists_divides_iff.mpr hFits⟩

theorem captures_iff (entry : Entry σ) (path : String) (parameters : PathParameters) :
    entry.Captures path parameters ↔
      Path.Captures (Path.segments entry.pattern) (Path.segments path) parameters :=
  Path.exists_divides_iff

end Router.Entry

/-- The route that a registration brings, if it is one. -/
def Registration.route? {σ : Type} : Registration σ → Option (Route σ)
  | .route line => some line
  | .errorHandler _ => none

/-- The routes among the registrations of some configurations are those of a table, in order. -/
def Router.Lists {σ : Type} (configurations : List (Configuration σ)) (table : List (Entry σ)) :
    Prop :=
  configurations.flatten.filterMap Registration.route? = table.map Entry.route

namespace Router

variable {σ : Type}

theorem routes_configure (router : Router σ) (configuration : Configuration σ) :
    (router.configure configuration).routes =
      router.routes ++ configuration.filterMap Registration.route? := by
  induction configuration generalizing router with
  | nil => simp [configure]
  | cons registration registrations ih =>
      have hRest := ih (router.register registration)
      cases registration with
      | route line => simpa [configure, register, Registration.route?] using hRest
      | errorHandler handler =>
          rw [List.filterMap_cons_none rfl]
          exact hRest

theorem routes_foldl_configure (configurations : List (Configuration σ)) (router : Router σ) :
    (configurations.foldl configure router).routes =
      router.routes ++ configurations.flatten.filterMap Registration.route? := by
  induction configurations generalizing router with
  | nil => simp
  | cons configuration configurations ih =>
      rw [List.foldl_cons, ih, routes_configure, List.flatten_cons, List.filterMap_append,
        List.append_assoc]

/-- The routes of a router are the entries of its table, in order. -/
theorem routes_ofConfigurations {configurations : List (Configuration σ)}
    {table : List (Entry σ)} (hTable : Lists configurations table) :
    (ofConfigurations configurations).value.routes = table.map Entry.route := by
  rw [← hTable]
  exact routes_foldl_configure configurations {}

theorem find?_ofConfigurations {configurations : List (Configuration σ)}
    {table : List (Entry σ)} (hTable : Lists configurations table) (method : Http.Method)
    (path : String) :
    (ofConfigurations configurations).value.find? method path =
      table.findSome? fun entry => entry.route.match? method path := by
  rw [find?_eq_findSome?, routes_ofConfigurations hTable, List.findSome?_map]
  rfl

/-- An entry matches what it serves, and captures the parameters. -/
theorem Entry.match?_eq_some_iff (entry : Entry σ) (method : Http.Method) (path : String)
    (found : RouteMatch σ) :
    entry.route.match? method path = some found ↔
      entry.Serves method path ∧ found.handler = entry.handler ∧
        entry.Captures path found.parameters := by
  rw [Route.match?_eq_some_iff, route, Path.match?_parse_eq_some_iff, serves_iff, captures_iff]
  constructor
  · rintro ⟨hMethod, hHandler, hFits, hCaptures⟩
    exact ⟨⟨hMethod, hFits⟩, hHandler.symm, hCaptures⟩
  · rintro ⟨⟨hMethod, hFits⟩, hHandler, hCaptures⟩
    exact ⟨hMethod, hHandler.symm, hFits, hCaptures⟩

/-- What serves also captures, so that nothing but the method and the words decides. -/
theorem Entry.match?_eq_none_iff (entry : Entry σ) (method : Http.Method) (path : String) :
    entry.route.match? method path = none ↔ ¬ entry.Serves method path := by
  constructor
  · intro hNone hServes
    obtain ⟨-, hFits⟩ := (serves_iff ..).mp hServes
    obtain ⟨parameters, hCaptures⟩ : ∃ parameters, entry.Captures path parameters :=
      ⟨_, (captures_iff ..).mpr (Path.captures_foldl_capture hFits.length)⟩
    have hSome : entry.route.match? method path = some ⟨entry.handler, parameters⟩ :=
      (match?_eq_some_iff entry method path _).mpr ⟨hServes, rfl, hCaptures⟩
    exact nomatch hNone.symm.trans hSome
  · intro hServes
    cases hMatch : entry.route.match? method path with
    | none => rfl
    | some found => exact absurd ((match?_eq_some_iff entry method path found).mp hMatch).1 hServes

/-- Of a line, only the outline decides what it gives. -/
theorem Entry.match?_congr {entry other : Entry σ} (hOutline : entry.outline = other.outline)
    (method : Http.Method) {path respelled : String}
    (hPath : Path.Divides path = Path.Divides respelled) :
    entry.route.match? method path = other.route.match? method respelled := by
  simp only [outline, Prod.mk.injEq, Path.divides_eq_iff] at hOutline hPath
  obtain ⟨hMethod, hPattern, hHandler⟩ := hOutline
  simp only [Route.match?, route, Path.Pattern.match?, Path.Pattern.parse, hMethod, hPattern,
    hHandler, hPath]
  rfl

/-- The outlines of the entries and the division of the path decide on the match. Spellings of
pattern and path do not matter. -/
theorem findSome?_match?_congr {table others : List (Entry σ)}
    (hOutlines : others.map Entry.outline = table.map Entry.outline) (method : Http.Method)
    {path other : String} (hPath : Path.Divides other = Path.Divides path) :
    (others.findSome? fun entry => entry.route.match? method other) =
      table.findSome? fun entry => entry.route.match? method path := by
  induction table generalizing others with
  | nil =>
      obtain rfl := List.map_eq_nil_iff.mp hOutlines
      rfl
  | cons entry table ih =>
      obtain ⟨first, rest, rfl, hFirst, hRest⟩ := List.map_eq_cons_iff.mp hOutlines
      rw [List.findSome?_cons, List.findSome?_cons, Entry.match?_congr hFirst method hPath,
        ih hRest]

theorem find_eq_ok_iff (router : Router σ) (method : Http.Method) (path : String)
    (found : RouteMatch σ) :
    router.find method path = .ok found ↔ router.find? method path = some found := by
  unfold find
  cases router.find? method path <;> simp

/-- Without one it fails with an unknown route, and with no other failure. -/
theorem find_eq_error_iff (router : Router σ) (method : Http.Method) (path : String)
    (failure : Failure) :
    router.find method path = .error failure ↔
      failure = .noRoute method path ∧ router.find? method path = none := by
  unfold find
  cases router.find? method path <;> simp [eq_comm]

/-- The first line of a table that is for the method and fits the path. -/
def FirstServing (table : List (Entry σ)) (method : Http.Method) (path : String)
    (entry : Entry σ) : Prop :=
  ∃ before after, table = before ++ entry :: after ∧ entry.Serves method path ∧
    ∀ earlier ∈ before, ¬ earlier.Serves method path

/-- A router finds the first line of its table that serves, with the parameters that its pattern
captures, or says that there is none. Slashes that divide no words matter neither in the path nor in
the table. -/
theorem find_ofConfigurations {configurations : List (Configuration σ)} {table : List (Entry σ)}
    (hTable : Lists configurations table) (method : Http.Method) (path : String) :
    let router := (ofConfigurations configurations).value
    (∀ found, router.find method path = .ok found ↔
      ∃ entry, FirstServing table method path entry ∧ found.handler = entry.handler ∧
        entry.Captures path found.parameters) ∧
    (∀ failure, router.find method path = .error failure ↔
      failure = .noRoute method path ∧ ∀ entry ∈ table, ¬ entry.Serves method path) ∧
    (∀ others otherTable other, Lists others otherTable →
      otherTable.map Entry.outline = table.map Entry.outline →
      Path.Divides other = Path.Divides path →
      (ofConfigurations others).value.find? method other = router.find? method path) ∧
    ∀ text respelled, Path.Respells text respelled →
      Path.Divides text = Path.Divides respelled := by
  intro router
  refine ⟨fun found => ?_, fun failure => ?_, ?_,
    fun _ _ h => (Path.divides_eq_iff ..).mpr h.segments_eq⟩
  · rw [find_eq_ok_iff, find?_ofConfigurations hTable, List.findSome?_eq_some_iff]
    simp only [Entry.match?_eq_some_iff, Entry.match?_eq_none_iff]
    constructor
    · rintro ⟨before, entry, after, hSplit, ⟨hServes, hFound⟩, hFirst⟩
      exact ⟨entry, ⟨before, after, hSplit, hServes, hFirst⟩, hFound⟩
    · rintro ⟨entry, ⟨before, after, hSplit, hServes, hFirst⟩, hFound⟩
      exact ⟨before, entry, after, hSplit, ⟨hServes, hFound⟩, hFirst⟩
  · rw [find_eq_error_iff, find?_ofConfigurations hTable, List.findSome?_eq_none_iff]
    simp only [Entry.match?_eq_none_iff]
  · intro others otherTable other hOthers hOutlines hPath
    rw [find?_ofConfigurations hTable, find?_ofConfigurations hOthers,
      findSome?_match?_congr hOutlines method hPath]

end Router

namespace PetStore

/-- The routes of the pet store, line by line. -/
def table : List (Router.Entry RandomSource) :=
  [⟨.get, "/pets", browse⟩, ⟨.get, "/pets/{id}", visit⟩, ⟨.post, "/pets", welcome⟩,
    ⟨.post, "/events", tally⟩, ⟨.get, "/foo", denyAccess⟩]

theorem lists_table : Router.Lists [routes, errors] table := rfl

theorem find_pet :
    (Router.ofConfigurations [routes, errors]).value.find .get "//pets/7/" =
      .ok ⟨visit, [("id", "7")]⟩ := by
  have hPattern : Path.Divides "/pets/{id}" ["pets", "{id}"] := (Path.segments_eq_iff ..).mp rfl
  have hPath : Path.Divides "//pets/7/" ["pets", "7"] := (Path.segments_eq_iff ..).mp rfl
  have hId : Path.Names "{id}" "id" := ⟨rfl, rfl⟩
  have hFits : Path.Fits ["pets", "{id}"] ["pets", "7"] := by
    refine ⟨rfl, fun pair hPair hLiteral => ?_⟩
    rcases List.mem_cons.mp hPair with rfl | hLast
    · rfl
    · exact absurd (List.mem_singleton.mp hLast ▸ hId) (hLiteral "id")
  have hFirst : ∀ earlier ∈ table.take 1, ¬ earlier.Serves .get "//pets/7/" := by
    intro earlier hEarlier hServes
    obtain rfl := List.mem_singleton.mp hEarlier
    obtain ⟨-, hFits⟩ := (Router.Entry.serves_iff ..).mp hServes
    exact absurd hFits.length (by decide)
  refine ((Router.find_ofConfigurations lists_table .get "//pets/7/").1 _).mpr
    ⟨⟨.get, "/pets/{id}", visit⟩, ?_, rfl, _, _, hPattern, hPath, Path.captures_foldl_capture rfl⟩
  exact ⟨table.take 1, table.drop 2, rfl, ⟨rfl, _, _, hPattern, hPath, hFits⟩, hFirst⟩

end PetStore

end InvocationBridge
