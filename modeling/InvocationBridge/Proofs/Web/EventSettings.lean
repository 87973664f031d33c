import InvocationBridge.Proofs.Http
import InvocationBridge.Proofs.Json.Ordered
import InvocationBridge.Proofs.Web.EventFormats

/-!
The parameters and headers of the request that a gateway event describes.

`Lists` says which texts an event gives under which names. All of them arrive, in order and each
once: the parameters under their names, the headers under the names that they spell, but for those
that HTTP has no place for.
-/

namespace InvocationBridge

namespace GatewayEvent

/-- The text of a value, if it is one. -/
def single : Json → List String
  | .str text => [text]
  | _ => []

/-- The texts among the items of a value, if it is a list. -/
def several : Json → List String
  | .arr items => items.flatMap single
  | _ => []

/-- The texts of an event by name: those of a field `many` with lists, or else the single ones of a
field `one`. -/
inductive Lists (event : Json) (many one : String) : Fields (List String) → Prop where
  | many {fields : Fields Json} (h : event.field? many = some (.obj fields)) :
      Lists event many one (fields.mapValues several)
  | one {fields : Fields Json} (hMany : ∀ fields, event.field? many ≠ some (.obj fields))
      (h : event.field? one = some (.obj fields)) : Lists event many one (fields.mapValues single)
  | nowhere (hMany : ∀ fields, event.field? many ≠ some (.obj fields))
      (hOne : ∀ fields, event.field? one ≠ some (.obj fields)) : Lists event many one []

/-- The entries of a table of lists, one by one. -/
def entries (lists : Fields (List String)) : List (String × String) :=
  lists.flatMap fun (name, texts) => texts.map (name, ·)

/-- Add a value after those that a parameter has. -/
def addTo (query : Fields (List String)) (entry : String × String) : Fields (List String) :=
  query.insert entry.1 ((query.get? entry.1).getD [] ++ [entry.2])

/-- Add a header, unless its name or value is none in HTTP. -/
def addValid (headers : Http.Headers) (entry : String × String) : Http.Headers :=
  ((Http.HeaderName.parse? entry.1).bind fun name =>
    (Http.HeaderValue.ofText? entry.2).map fun value => headers.add name value).getD headers

/-- Steps that change parameters only change nothing else one after the other. -/
theorem foldl_eq_with_query {f : Request → String × String → Request}
    (hStep : ∀ r entry, f r entry = { r with query := (f r entry).query })
    (given : List (String × String)) (r : Request) :
    given.foldl f r = { r with query := (given.foldl f r).query } := by
  induction given generalizing r with
  | nil => rfl
  | cons entry rest ih =>
      rw [List.foldl_cons]
      have hRest := ih (f r entry)
      rw [hStep r entry] at hRest ⊢
      exact hRest

/-- The parameters are all that an event changes with its parameters. -/
theorem withQuery_eq (event : Json) (r : Request) :
    withQuery event r = { r with query := (withQuery event r).query } := by
  unfold withQuery
  split
  · exact foldl_eq_with_query (fun _ _ => rfl) _ r
  · split
    · exact foldl_eq_with_query (fun _ _ => rfl) _ r
    · rfl

/-- Adding parameters one by one changes the query and nothing else of the request. -/
theorem query_foldl_addQuery (given : List (String × String)) (r : Request) :
    (given.foldl (fun r (name, value) => r.addQuery name value) r).query =
      given.foldl addTo r.query := by
  induction given generalizing r with
  | nil => rfl
  | cons entry rest ih => exact ih (r.addQuery entry.1 entry.2)

theorem value_addHeader (r : Request) (name value : String) :
    (addHeader r name value).value = { r with headers := addValid r.headers (name, value) } := by
  rw [addValid]
  -- `delta`, since the equations of a match on two readings take long to derive.
  delta addHeader
  cases Http.HeaderName.parse? name with
  | none => rfl
  | some valid => cases Http.HeaderValue.ofText? value <;> rfl

/-- Settings that are not valid headers are left out, and all others are added in order. -/
theorem value_withHeaders (event : Json) (r : Request) :
    (withHeaders event r).value = { r with
      headers := (settings event "multiValueHeaders" "headers").foldl addValid r.headers } := by
  rw [withHeaders]
  generalize settings event _ _ = given
  induction given generalizing r with
  | nil => rfl
  | cons entry rest ih =>
      rw [List.foldlM_cons, Logged.value_bind, value_addHeader, ih]
      rfl

/-- What each part of a request comes from. -/
theorem value_toRequest (event : Json) :
    (toRequest event).value = do
      let method ← method event
      let body ← body event
      return {
        method := method, path := path event, body := body
        query := (withQuery event { method := method, path := path event }).query
        headers := (settings event "multiValueHeaders" "headers").foldl addValid .empty } := by
  rw [toRequest]
  cases method event with
  | error failure => rfl
  | ok method =>
      simp only [Logged.value_bind, Logged.value_pure, value_withHeaders]
      rw [withQuery_eq]
      cases body event <;> rfl

section Lists

variable {event : Json} {many one : String} {lists : Fields (List String)}

theorem filterMap_eq_flatMap {α β : Type} {f : α → Option β} {g : α → List β}
    (h : ∀ a, (f a).toList = g a) (items : List α) : items.filterMap f = items.flatMap g := by
  induction items with
  | nil => rfl
  | cons first rest ih =>
      rw [List.filterMap_cons, List.flatMap_cons, ← ih, ← h]
      cases f first <;> rfl

theorem toList_str? (v : Json) : v.str?.toList = single v := by
  cases v <;> rfl

theorem texts_eq (v : Json) : texts v = several v := by
  cases v with
  | arr items => exact filterMap_eq_flatMap toList_str? items
  | _ => rfl

/-- The settings of a table, name by name. -/
theorem entries_mapValues (texts : Json → List String) (fields : Fields Json) :
    entries (fields.mapValues texts) = fields.flatMap fun (name, v) => (texts v).map (name, ·) := by
  rw [entries, Fields.mapValues, List.flatMap_map]

/-- The settings that are read are those that the event lists. -/
theorem Lists.settings_eq (h : Lists event many one lists) :
    settings event many one = entries lists := by
  have hNoObject {value : Option Json} (hValue : ∀ fields, value ≠ some (.obj fields)) :
      value.bind Json.obj? = none :=
    Option.eq_none_iff_forall_ne_some.mpr fun fields h => hValue fields (bind_obj?_eq_some_iff.mp h)
  cases h with
  | many h =>
      rw [settings, h, entries_mapValues]
      simp only [listed, texts_eq, Option.bind_some, Json.obj?]
  | one hMany h =>
      rw [settings, hNoObject hMany, h, entries_mapValues]
      apply filterMap_eq_flatMap
      intro field
      rw [Option.toList_map, toList_str?]
  | nowhere hMany hOne =>
      rw [settings, hNoObject hMany, hNoObject hOne]
      rfl

theorem exists_lists (event : Json) (many one : String) : ∃ lists, Lists event many one lists := by
  by_cases hMany : ∃ fields, event.field? many = some (.obj fields)
  · obtain ⟨fields, hFields⟩ := hMany
    exact ⟨_, .many hFields⟩
  · by_cases hOne : ∃ fields, event.field? one = some (.obj fields)
    · obtain ⟨fields, hFields⟩ := hOne
      exact ⟨_, .one (not_exists.mp hMany) hFields⟩
    · exact ⟨_, .nowhere (not_exists.mp hMany) (not_exists.mp hOne)⟩

/-- In an ordered event a name is listed once. -/
theorem Lists.sorted (h : Lists event many one lists) (hOrdered : event.Ordered) :
    lists.Sorted := by
  cases h with
  | many h => exact Fields.sorted_mapValues _ (hOrdered.sorted_of_field? h)
  | one _ h => exact Fields.sorted_mapValues _ (hOrdered.sorted_of_field? h)
  | nowhere => exact List.Pairwise.nil

end Lists

section Query

variable {query lists : Fields (List String)} {name : String}

/-- Adding an entry extends the values of its name at the end, and leaves the others. -/
theorem getD_get?_addTo (entry : String × String) :
    ((addTo query entry).get? name).getD [] =
      (query.get? name).getD [] ++ if entry.1 = name then [entry.2] else [] := by
  rw [addTo, Fields.get?_insert]
  by_cases h : entry.1 = name
  · rw [if_pos h.symm, if_pos h, h, Option.getD_some]
  · rw [if_neg (Ne.symm h), if_neg h, List.append_nil]

/-- A parameter has the values that were added to it, in order. -/
theorem getD_get?_foldl_addTo (given : List (String × String)) :
    ((given.foldl addTo query).get? name).getD [] =
      (query.get? name).getD [] ++ given.flatMap fun entry =>
        if entry.1 = name then [entry.2] else [] := by
  induction given generalizing query with
  | nil => simp
  | cons entry rest ih =>
      rw [List.foldl_cons, ih, getD_get?_addTo, List.flatMap_cons, List.append_assoc]

/-- A table of parameters has each name once, and no name without a value. -/
def IsTidy (query : Fields (List String)) : Prop :=
  query.Sorted ∧ ∀ field ∈ query, field.2 ≠ []

theorem isTidy_nil : IsTidy [] := ⟨List.Pairwise.nil, nofun⟩

/-- Adding an entry keeps the parameters sorted, and none of them is without a value. -/
theorem IsTidy.addTo (h : IsTidy query) (entry : String × String) :
    IsTidy (addTo query entry) := by
  refine ⟨Fields.sorted_insert _ _ h.1, ?_⟩
  intro field hField
  rcases Fields.mem_insert hField with hNew | hOld
  · subst hNew
    exact List.concat_ne_nil _ _
  · exact h.2 field hOld

theorem IsTidy.foldl_addTo (h : IsTidy query) (given : List (String × String)) :
    IsTidy (given.foldl GatewayEvent.addTo query) := by
  induction given generalizing query with
  | nil => exact h
  | cons entry rest ih => exact ih (h.addTo entry)

/-- Tidy parameters are told by the values under each name, where no values are no parameter. -/
theorem IsTidy.mem_iff (h : IsTidy query) {values : List String} :
    (name, values) ∈ query ↔ values ≠ [] ∧ values = (query.get? name).getD [] := by
  constructor
  · intro hMem
    rw [(Fields.get?_eq_some_iff_mem h.1).mpr hMem]
    exact ⟨h.2 _ hMem, rfl⟩
  · intro ⟨hNonempty, hValues⟩
    cases hGet : query.get? name with
    | none =>
        rw [hGet] at hValues
        exact absurd hValues hNonempty
    | some stored =>
        rw [hGet] at hValues
        subst hValues
        exact Fields.mem_of_get? hGet

/-- The entries under one name are the list that the name has. -/
theorem flatMap_entries (h : lists.Sorted) (name : String) :
    ((entries lists).flatMap fun entry => if entry.1 = name then [entry.2] else []) =
      (lists.get? name).getD [] := by
  rw [entries, List.flatMap_assoc]
  induction lists with
  | nil => rfl
  | cons first rest ih =>
      obtain ⟨hFirst, hRest⟩ := List.pairwise_cons.mp h
      rw [List.flatMap_cons, ih hRest, List.flatMap_map]
      by_cases hName : first.1 = name
      · subst hName
        rw [Fields.get?_eq_none_of_forall_lt hFirst, Fields.get?, if_pos rfl]
        simp
      · rw [Fields.get?, if_neg hName]
        simp [hName]

end Query

section Headers

open Http

/-- A header that is added ends up under its name, unless its name or its value is not allowed. -/
theorem values_addValid (headers : Headers) (entry : String × String) (name : HeaderName) :
    (addValid headers entry).values name =
      headers.values name ++
        if Spells entry.1 name then (HeaderValue.ofText? entry.2).toList else [] := by
  simp only [← HeaderName.parse?_eq_some_iff, addValid]
  cases HeaderName.parse? entry.1 with
  | none => simp
  | some given =>
      cases HeaderValue.ofText? entry.2 with
      | none => simp
      | some value =>
          have hAdd := headers.values_put given name (headers.values given ++ [value])
          refine hAdd.trans ?_
          by_cases hName : given = name
          · simp [hName]
          · simp [hName]

/-- A header has the valid values that were added to it, in order. -/
theorem values_foldl_addValid (headers : Headers) (given : List (String × String))
    (name : HeaderName) :
    (given.foldl addValid headers).values name =
      headers.values name ++ given.flatMap fun entry =>
        if Spells entry.1 name then (HeaderValue.ofText? entry.2).toList else [] := by
  induction given generalizing headers with
  | nil => simp
  | cons entry rest ih =>
      rw [List.foldl_cons, ih, values_addValid, List.flatMap_cons, List.append_assoc]

/-- The octets of a header's values are those of the texts under all the keys that spell its name,
in the order of the keys. -/
theorem octets_values_foldl_addValid (lists : Fields (List String)) (name : HeaderName) :
    (((entries lists).foldl addValid .empty).values name).map HeaderValue.octets =
      lists.flatMap fun (key, texts) =>
        if Spells key name then
          (texts.map Bytes.ofText).filter fun octets => octets.all isValueOctet
        else [] := by
  have hEmpty : Headers.empty.values name = [] := rfl
  rw [values_foldl_addValid, hEmpty, List.nil_append, entries, List.flatMap_assoc,
    List.map_flatMap]
  congr 1
  funext (key, texts)
  rw [List.flatMap_map]
  by_cases hKey : Spells key name
  · simp only [hKey, if_true]
    rw [← HeaderValue.map_octets_filterMap_ofText?, filterMap_eq_flatMap (fun _ => rfl)]
  · simp [hKey]

end Headers

/-- Nothing is lost, repeated or moved on the way from an event to its request. The parameters of
the request are the texts that the event lists for them, each parameter with a value once and no
other; the values of a header are the valid ones among the texts of all the keys that spell its
name, key after key. -/
theorem toRequest_carries {event : Json} {request : Request} (hOrdered : event.Ordered)
    (h : (toRequest event).value = .ok request) :
    (∃ parameters : Fields (List String),
      Lists event "multiValueQueryStringParameters" "queryStringParameters" parameters ∧
      parameters.Sorted ∧ request.query.Sorted ∧
      (∀ name, request.queryValues name = (parameters.get? name).getD []) ∧
      ∀ name values, (name, values) ∈ request.query ↔
        values ≠ [] ∧ values = (parameters.get? name).getD []) ∧
    ∃ headers : Fields (List String), Lists event "multiValueHeaders" "headers" headers ∧
      headers.Sorted ∧
      ∀ name : Http.HeaderName,
        (request.headers.values name).map Http.HeaderValue.octets =
          headers.flatMap fun (key, texts) =>
            if Http.Spells key name then
              (texts.map Bytes.ofText).filter fun octets => octets.all Http.isValueOctet
            else [] := by
  obtain ⟨parameters, hParameters⟩ :=
    exists_lists event "multiValueQueryStringParameters" "queryStringParameters"
  obtain ⟨headers, hHeaders⟩ := exists_lists event "multiValueHeaders" "headers"
  have hSorted := hParameters.sorted hOrdered
  rw [value_toRequest, hHeaders.settings_eq] at h
  obtain ⟨method, -, h⟩ := bind_eq_ok_iff.mp h
  obtain ⟨body, -, h⟩ := bind_eq_ok_iff.mp h
  -- An ordered event sets no parameter twice, so that all of them may be taken as added.
  rw [withQuery_of_ordered hOrdered rfl, query_foldl_addQuery, hParameters.settings_eq] at h
  cases h
  have hTidy := isTidy_nil.foldl_addTo (entries parameters)
  have hValues (name : String) :
      (((entries parameters).foldl addTo []).get? name).getD [] =
        (parameters.get? name).getD [] := by
    rw [getD_get?_foldl_addTo, flatMap_entries hSorted]
    rfl
  refine ⟨⟨parameters, hParameters, hSorted, hTidy.1, hValues, ?_⟩,
    headers, hHeaders, hHeaders.sorted hOrdered, octets_values_foldl_addValid headers⟩
  intro name values
  rw [hTidy.mem_iff, hValues]

/-- An event with parameters and headers of all kinds, one header under two keys. -/
def mixedEvent : Json :=
  .obj [("httpMethod", .str "GET"),
    ("multiValueHeaders", .obj [("Accept", .arr [.str "text/html", .null]),
      ("accept", .arr [.str "a\nb", .str "text/plain"]), ("bad name", .arr [.str "*/*"])]),
    ("multiValueQueryStringParameters", .obj [("id", .arr [.str "1", .bool true, .str "3"]),
      ("limit", .arr [])])]

theorem ordered_mixedEvent : mixedEvent.Ordered := by
  have hHeaders : (Json.obj [("Accept", .arr [.str "text/html", .null]),
      ("accept", .arr [.str "a\nb", .str "text/plain"]),
      ("bad name", .arr [.str "*/*"])]).Ordered :=
    .obj (Fields.sorted_of_map_fst ["Accept", "accept", "bad name"] rfl (by decide))
      (by simp [Json.Ordered.arr, Json.Ordered.str, Json.Ordered.null])
  have hQuery : (Json.obj [("id", .arr [.str "1", .bool true, .str "3"]),
      ("limit", .arr [])]).Ordered :=
    .obj (Fields.sorted_of_map_fst ["id", "limit"] rfl (by decide))
      (by simp [Json.Ordered.arr, Json.Ordered.str, Json.Ordered.bool])
  exact .obj (Fields.sorted_of_map_fst ["httpMethod", "multiValueHeaders",
    "multiValueQueryStringParameters"] rfl (by decide)) (by simp [Json.Ordered.str, hHeaders, hQuery])

theorem toRequest_mixedEvent :
    ∃ request, (toRequest mixedEvent).value = .ok request ∧
      request.queryValues "id" = ["1", "3"] ∧
      (∀ values, ("limit", values) ∉ request.query) ∧
      (request.headers.values ⟨"accept", by decide⟩).map Http.HeaderValue.octets =
        [Bytes.ofText "text/html", Bytes.ofText "text/plain"] := by
  obtain ⟨request, hRequest⟩ : ∃ request, (toRequest mixedEvent).value = .ok request := ⟨_, rfl⟩
  obtain ⟨⟨parameters, hParameters, -, -, hValues, hMem⟩, headers, hHeaders, -, hOctets⟩ :=
    toRequest_carries ordered_mixedEvent hRequest
  cases hParameters with
  | many hQuery =>
      cases hQuery
      cases hHeaders with
      | many hHeaders =>
          cases hHeaders
          refine ⟨request, hRequest, hValues "id", ?_, (hOctets _).trans (by decide)⟩
          intro values hStored
          obtain ⟨hNonempty, hValues⟩ := (hMem "limit" values).mp hStored
          exact hNonempty hValues
      | one hNone => exact absurd rfl (hNone _)
      | nowhere hNone => exact absurd rfl (hNone _)
  | one hNone => exact absurd rfl (hNone _)
  | nowhere hNone => exact absurd rfl (hNone _)

end GatewayEvent

end InvocationBridge
