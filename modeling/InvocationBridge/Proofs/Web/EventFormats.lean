import InvocationBridge.Proofs.Except
import InvocationBridge.Proofs.Json.Ordered
import InvocationBridge.Proofs.Json.Value
import InvocationBridge.Web.GatewayEvent

/-!
The formats of gateway events, and the requests that they describe.

`IsFlat` and `IsNested` say how the two formats hold the same call, which `flat` and `nested` write
down, and `Spreads` how a field with one value for each name is replaced by one with lists. None of
it makes a difference to the request.
-/

namespace InvocationBridge.GatewayEvent

/-- What both formats of an event tell of an HTTP request, where it is, and in what form. -/
structure Call where
  method : String
  path : String
  query : Option (Fields String) := none
  headers : Option (Fields String) := none
  body : Option String := none
  encoded : Option Bool := none

/-- Texts by name, as an event has them. -/
def ofTexts (texts : Fields String) : Json := .obj (texts.mapValues .str)

namespace Call

/-- The part of an event that is alike in both formats. -/
structure Fills (call : Call) (event : Json) : Prop where
  query : event.field? "queryStringParameters" = call.query.map ofTexts
  queries : event.field? "multiValueQueryStringParameters" = none
  headers : event.field? "headers" = call.headers.map ofTexts
  headerLists : event.field? "multiValueHeaders" = none
  body : event.field? "body" = call.body.map .str
  encoded : event.field? "isBase64Encoded" = call.encoded.map .bool

/-- The format with method and path at the top. -/
structure IsFlat (call : Call) (event : Json) : Prop extends call.Fills event where
  method : event.field? "httpMethod" = some (.str call.method)
  path : event.field? "path" = some (.str call.path)

/-- The format that tells its version and route, and has the method further inside. -/
structure IsNested (call : Call) (event : Json) : Prop extends call.Fills event where
  version : event.hasField "version"
  route : event.hasField "routeKey"
  noMethod : event.field? "httpMethod" = none
  noPath : event.field? "path" = none
  method : event.at? ["requestContext", "http", "method"] = some (.str call.method)
  path : event.field? "rawPath" = some (.str call.path)

/-- Set a field that may be left out. -/
def setSome (name : String) (value : Option Json) (fields : Fields Json) : Fields Json :=
  match value with
  | some value => fields.insert name value
  | none => fields

theorem get?_setSome (name other : String) (value : Option Json) (fields : Fields Json) :
    (setSome name value fields).get? other =
      if other = name then value.or (fields.get? other) else fields.get? other := by
  cases value with
  | none => simp [setSome]
  | some value => simp [setSome, Fields.get?_insert]

/-- The fields that both formats have. -/
def shared (call : Call) : Fields Json :=
  setSome "queryStringParameters" (call.query.map ofTexts) <|
    setSome "headers" (call.headers.map ofTexts) <|
      setSome "body" (call.body.map .str) <|
        setSome "isBase64Encoded" (call.encoded.map .bool) []

/-- The call as an event with method and path at the top. -/
def flat (call : Call) : Json :=
  .obj (Fields.insertAll [("httpMethod", .str call.method), ("path", .str call.path)] call.shared)

/-- The call as an event that tells its version and route. -/
def nested (call : Call) : Json :=
  .obj (Fields.insertAll [("version", .str "2.0"), ("routeKey", .str "$default"),
    ("rawPath", .str call.path), ("requestContext", .obj [("http", .obj [
      ("method", .str call.method), ("path", .str call.path)])])] call.shared)

theorem fills_shared (call : Call) : call.Fills (.obj call.shared) := by
  constructor <;> simp [Json.field?, shared, get?_setSome, Fields.get?]

/-- Fields of other names take nothing from an event that a call fills. -/
theorem Fills.insertAll {call : Call} {fields settings : Fields Json}
    (h : call.Fills (.obj fields)) (hOther : ∀ name ∈ ["queryStringParameters",
      "multiValueQueryStringParameters", "headers", "multiValueHeaders", "body", "isBase64Encoded"],
      name ∉ settings.map Prod.fst) : call.Fills (.obj (settings.insertAll fields)) := by
  have hGet (name : String) (hName : name ∉ settings.map Prod.fst) :
      (Json.obj (settings.insertAll fields)).field? name = (Json.obj fields).field? name :=
    Fields.get?_insertAll_of_get?_eq_none (Fields.get?_eq_none_of_not_mem hName) fields
  simp only [List.forall_mem_cons, List.not_mem_nil, false_implies, implies_true] at hOther
  obtain ⟨hQuery, hQueries, hHeaders, hHeaderLists, hBody, hEncoded, -⟩ := hOther
  exact ⟨(hGet _ hQuery).trans h.query, (hGet _ hQueries).trans h.queries,
    (hGet _ hHeaders).trans h.headers, (hGet _ hHeaderLists).trans h.headerLists,
    (hGet _ hBody).trans h.body, (hGet _ hEncoded).trans h.encoded⟩

theorem isFlat_flat (call : Call) : call.IsFlat call.flat where
  toFills := call.fills_shared.insertAll (by simp)
  method := by simp [flat, Json.field?, Fields.insertAll, Fields.get?_insert]
  path := by simp [flat, Json.field?, Fields.insertAll]

/-- What both formats share says nothing about the method or the path. -/
theorem get?_shared_eq_none (call : Call) {name : String} (h : name ∉ ["queryStringParameters",
    "headers", "body", "isBase64Encoded"]) : call.shared.get? name = none := by
  simp_all [shared, get?_setSome, Fields.get?]

theorem isNested_nested (call : Call) : call.IsNested call.nested where
  toFills := call.fills_shared.insertAll (by simp)
  version := by simp [nested, Json.hasField, Json.field?, Fields.insertAll, Fields.get?_insert]
  route := by simp [nested, Json.hasField, Json.field?, Fields.insertAll, Fields.get?_insert]
  noMethod := by
    simp [nested, Json.field?, Fields.insertAll, Fields.get?_insert, get?_shared_eq_none]
  noPath := by
    simp [nested, Json.field?, Fields.insertAll, Fields.get?_insert, get?_shared_eq_none]
  method := by simp [nested, Json.at?, Json.field?, Fields.insertAll, Fields.get?]
  path := by simp [nested, Json.field?, Fields.insertAll, Fields.get?_insert]

/-- Parameters and headers in order, as those of an event are that was read. -/
structure IsOrdered (call : Call) : Prop where
  query : ∀ texts, call.query = some texts → texts.Sorted
  headers : ∀ texts, call.headers = some texts → texts.Sorted

theorem plain_setSome {depth : Nat} {fields : Fields Json} (h : (Json.obj fields).Plain (depth + 1))
    (name : String) {value : Option Json} (hValue : ∀ v, value = some v → v.Plain depth) :
    (Json.obj (setSome name value fields)).Plain (depth + 1) := by
  cases value with
  | none => exact h
  | some value => exact h.insert name (hValue value rfl)

/-- An ordered call is written as a plain value, so that the text of it reads back. -/
theorem plain_shared {call : Call} (h : call.IsOrdered) (depth : Nat) :
    (Json.obj call.shared).Plain (depth + 2) := by
  have hTexts {texts : Option (Fields String)} (hSorted : ∀ given, texts = some given → given.Sorted)
      (v : Json) (hValue : texts.map ofTexts = some v) : v.Plain (depth + 1) := by
    obtain ⟨given, hGiven, rfl⟩ := Option.map_eq_some_iff.mp hValue
    exact .texts (hSorted given hGiven) id depth
  have hBody (v : Json) (hValue : call.body.map .str = some v) : v.Plain (depth + 1) := by
    obtain ⟨text, -, rfl⟩ := Option.map_eq_some_iff.mp hValue
    exact .str text
  have hEncoded (v : Json) (hValue : call.encoded.map .bool = some v) : v.Plain (depth + 1) := by
    obtain ⟨flag, -, rfl⟩ := Option.map_eq_some_iff.mp hValue
    exact .bool flag
  have hEmpty : (Json.obj []).Plain (depth + 2) := .obj List.Pairwise.nil nofun
  exact plain_setSome (plain_setSome (plain_setSome (plain_setSome hEmpty _ hEncoded) _ hBody) _
    (hTexts h.headers)) _ (hTexts h.query)

theorem parse_flat {call : Call} (h : call.IsOrdered) :
    Json.parse call.flat.bytes = .ok call.flat :=
  Json.parse_bytes ((plain_shared h 125).insertAll (by simp [Json.Plain.str]))

theorem parse_nested {call : Call} (h : call.IsOrdered) :
    Json.parse call.nested.bytes = .ok call.nested := by
  have hHttp : (Json.obj [("method", .str call.method), ("path", .str call.path)]).Plain 125 :=
    .obj (Fields.sorted_of_map_fst ["method", "path"] rfl (by decide)) (by simp [Json.Plain.str])
  have hContext : (Json.obj [("http", .obj [("method", .str call.method),
      ("path", .str call.path)])]).Plain 126 :=
    .obj (List.pairwise_singleton ..) (by simpa using hHttp)
  exact Json.parse_bytes ((plain_shared h 125).insertAll (by simp [Json.Plain.str, hContext]))

end Call

/-- An event that describes no request is a bad request, whatever is wrong with it. -/
theorem exists_badRequest {event : Json} {failure : Failure}
    (h : (toRequest event).value = .error failure) : ∃ message, failure = .badRequest message := by
  rw [toRequest] at h
  cases hMethod : method event with
  | error refusal =>
      rw [hMethod] at h
      cases h
      unfold method at hMethod
      split at hMethod
      · cases hMethod
        exact ⟨_, rfl⟩
      · split at hMethod
        · cases hMethod
          exact ⟨_, rfl⟩
        · cases hMethod
  | ok method =>
      rw [hMethod] at h
      have hBody : body event = .error failure := map_eq_error_iff.mp h
      unfold body at hBody
      split at hBody
      · cases hBody
      · split at hBody
        · obtain ⟨fault, -, hFailure⟩ := mapError_eq_error_iff.mp hBody
          exact ⟨_, hFailure⟩
        · cases hBody

/-- A request is made of a method, a path, parameters, headers and a body; events that agree on
these make the same one. -/
theorem toRequest_congr {event other : Json} (hMethod : methodValue? event = methodValue? other)
    (hPath : path event = path other)
    (hQuery : ∀ r : Request, r.query = [] → withQuery event r = withQuery other r)
    (hHeaders : settings event "multiValueHeaders" "headers" =
      settings other "multiValueHeaders" "headers")
    (hBody : body event = body other) : toRequest event = toRequest other := by
  have hBare (method : Http.Method) :
      withQuery event { method := method, path := path event } =
        withQuery other { method := method, path := path other } := by
    rw [hPath]
    exact hQuery _ rfl
  simp only [toRequest, GatewayEvent.method, withHeaders, hBare, hMethod, hHeaders, hBody]

theorem settings_congr {event other : Json} {many one : String}
    (hMany : event.field? many = other.field? many) (hOne : event.field? one = other.field? one) :
    settings event many one = settings other many one := by
  rw [settings, settings, hMany, hOne]

theorem withQuery_congr {event other : Json}
    (hMany : event.field? "multiValueQueryStringParameters" =
      other.field? "multiValueQueryStringParameters")
    (hOne : event.field? "queryStringParameters" = other.field? "queryStringParameters")
    (r : Request) : withQuery event r = withQuery other r := by
  rw [withQuery, withQuery, hMany, hOne]

theorem body_congr {event other : Json} (hBody : event.field? "body" = other.field? "body")
    (hEncoded : event.field? "isBase64Encoded" = other.field? "isBase64Encoded") :
    body event = body other := by
  rw [body, body, hBody, hEncoded]

/-- Beside parameters, headers and the body, only the places of method and path count. -/
theorem toRequest_congr_of_places {event other : Json}
    (hFields : ∀ name ∈ ["httpMethod", "requestContext", "path", "rawPath"],
      event.field? name = other.field? name)
    (hQuery : ∀ r : Request, r.query = [] → withQuery event r = withQuery other r)
    (hHeaders : settings event "multiValueHeaders" "headers" =
      settings other "multiValueHeaders" "headers")
    (hBody : body event = body other) : toRequest event = toRequest other := by
  simp only [List.forall_mem_cons, List.not_mem_nil, false_implies, implies_true] at hFields
  obtain ⟨hMethod, hContext, hPath, hRawPath, -⟩ := hFields
  have hAt (names : List String) :
      event.at? ("requestContext" :: names) = other.at? ("requestContext" :: names) := by
    rw [Json.at?, Json.at?, hContext]
  apply toRequest_congr
  · rw [methodValue?, methodValue?, hMethod, hAt]
  · rw [path, path, hPath, hRawPath, hAt]
  · exact hQuery
  · exact hHeaders
  · exact hBody

/-- Beside parameters and headers, only six fields count. -/
theorem toRequest_congr_of_fields {event other : Json}
    (hFields : ∀ name ∈ ["httpMethod", "requestContext", "path", "rawPath", "body",
      "isBase64Encoded"], event.field? name = other.field? name)
    (hQuery : ∀ r : Request, r.query = [] → withQuery event r = withQuery other r)
    (hHeaders : settings event "multiValueHeaders" "headers" =
      settings other "multiValueHeaders" "headers") : toRequest event = toRequest other := by
  refine toRequest_congr_of_places ?_ hQuery hHeaders ?_
  · intro name hName
    exact hFields name (List.mem_append_left _ hName)
  · exact body_congr (hFields _ (by simp)) (hFields _ (by simp))

/-- Both formats of a call are read as one request, or refused for one reason. -/
theorem toRequest_eq_of_formats {call : Call} {flat nested : Json} (hFlat : call.IsFlat flat)
    (hNested : call.IsNested nested) : toRequest flat = toRequest nested := by
  have hMethod : methodValue? flat = methodValue? nested := by
    rw [methodValue?, methodValue?, hFlat.method, hNested.noMethod, hNested.method]
    rfl
  have hPath : path flat = path nested := by
    rw [path, path, hFlat.path, hNested.noPath, hNested.path]
    rfl
  apply toRequest_congr hMethod hPath
  · intro r _
    exact withQuery_congr (hFlat.queries.trans hNested.queries.symm)
      (hFlat.query.trans hNested.query.symm) r
  · exact settings_congr (hFlat.headerLists.trans hNested.headerLists.symm)
      (hFlat.headers.trans hNested.headers.symm)
  · exact body_congr (hFlat.body.trans hNested.body.symm) (hFlat.encoded.trans hNested.encoded.symm)

/-- An event `spread` that has for a field `one` of `event` the field `many`, in which each value is
the only one of a list. -/
structure Spreads (many one : String) (event spread : Json) : Prop where
  single : (event.field? many).bind Json.obj? = none
  lists : ∃ fields : Fields Json, event.field? one = some (.obj fields) ∧
    spread.field? many = some (.obj (fields.mapValues fun v => .arr [v]))
  others : ∀ name, name ≠ many → name ≠ one → spread.field? name = event.field? name

/-- Lists with one value each have the texts that the values by themselves have. -/
theorem listed_lists (table : Fields Json) :
    listed (table.mapValues fun v => .arr [v]) = singles table := by
  rw [listed, singles, Fields.mapValues]
  induction table with
  | nil => rfl
  | cons first rest ih =>
      obtain ⟨name, v⟩ := first
      have hTexts : texts (.arr [v]) = v.str?.toList := by
        cases hText : v.str? <;> simp [texts, Json.arr?, hText]
      simp only [List.map_cons, List.flatMap_cons, List.filterMap_cons, ih, hTexts]
      cases v.str? <;> rfl

/-- Lists of one value each are the same settings as the values by themselves. -/
theorem settings_eq_of_spreads {many one : String} {event spread : Json}
    (h : Spreads many one event spread) : settings spread many one = settings event many one := by
  obtain ⟨table, hOne, hMany⟩ := h.lists
  rw [settings, settings, h.single, hOne, hMany]
  exact listed_lists table

/-- To set a parameter that has no value yet is to add its first one. -/
theorem putQuery_eq_addQuery {r : Request} {name : String} (h : r.query.get? name = none)
    (value : String) : r.putQuery name value = r.addQuery name value := by
  rw [Request.putQuery, Request.addQuery, Request.queryValues, h, Option.getD_none,
    List.nil_append]

/-- Parameters of different names that have no value yet may be set as well as added. With a name
given twice, setting would lose its first value. -/
theorem foldl_putQuery_eq_foldl_addQuery {given : List (String × String)} {r : Request}
    (hDistinct : given.Pairwise (·.1 ≠ ·.1)) (hNew : ∀ entry ∈ given, r.query.get? entry.1 = none) :
    given.foldl (fun r (name, value) => r.putQuery name value) r =
      given.foldl (fun r (name, value) => r.addQuery name value) r := by
  induction given generalizing r with
  | nil => rfl
  | cons first rest ih =>
      obtain ⟨hOther, hRest⟩ := List.pairwise_cons.mp hDistinct
      obtain ⟨hFirst, hLater⟩ := List.forall_mem_cons.mp hNew
      obtain ⟨name, value⟩ := first
      have hStep : r.putQuery name value = r.addQuery name value := putQuery_eq_addQuery hFirst value
      simp only [List.foldl_cons, hStep]
      apply ih hRest
      -- What was added for the first name leaves the later names without a value.
      intro entry hEntry
      have hGet := Fields.get?_insert_of_ne (Ne.symm (hOther entry hEntry))
        (r.queryValues name ++ [value]) r.query
      exact hGet.trans (hLater entry hEntry)

example : ([("id", "1"), ("id", "2")].foldl (fun r (name, value) => r.putQuery name value)
    ({ method := .get, path := "/" } : Request)).query = [("id", ["2"])] := rfl

/-- Fields in order have different names, also where only those with a text are taken. -/
theorem pairwise_singles {table : Fields Json} (h : table.Sorted) :
    (singles table).Pairwise (·.1 ≠ ·.1) := by
  rw [singles, List.pairwise_filterMap]
  refine h.imp ?_
  intro first later hLess entry hEntry other hOther
  obtain ⟨text, -, rfl⟩ := Option.map_eq_some_iff.mp hEntry
  obtain ⟨text', -, rfl⟩ := Option.map_eq_some_iff.mp hOther
  intro hName
  exact String.lt_irrefl _ (hName ▸ hLess)

theorem bind_obj?_eq_some_iff {found : Option Json} {fields : Fields Json} :
    found.bind Json.obj? = some fields ↔ found = some (.obj fields) := by
  cases found with
  | none => exact ⟨nofun, nofun⟩
  | some v => cases v <;> simp [Json.obj?]

/-- A new request gets the parameters of an ordered event as if all of them were added. -/
theorem withQuery_of_ordered {event : Json} (h : event.Ordered) {r : Request}
    (hNone : r.query = []) :
    withQuery event r =
      (settings event "multiValueQueryStringParameters" "queryStringParameters").foldl
        (fun r (name, value) => r.addQuery name value) r := by
  rw [withQuery, settings]
  cases (event.field? "multiValueQueryStringParameters").bind Json.obj? with
  | some table => rfl
  | none =>
      cases hOne : (event.field? "queryStringParameters").bind Json.obj? with
      | none => rfl
      | some table =>
          apply foldl_putQuery_eq_foldl_addQuery
          · exact pairwise_singles (h.sorted_of_field? (bind_obj?_eq_some_iff.mp hOne))
          · intro entry _
            rw [hNone]
            rfl

/-- Set or added, the parameters of an ordered event are the same in lists. -/
theorem withQuery_eq_of_spreads {event spread : Json} (hOrdered : event.Ordered)
    (h : Spreads "multiValueQueryStringParameters" "queryStringParameters" event spread)
    {r : Request} (hNone : r.query = []) : withQuery spread r = withQuery event r := by
  obtain ⟨table, -, hMany⟩ := h.lists
  rw [withQuery_of_ordered hOrdered hNone, ← settings_eq_of_spreads h, settings, withQuery, hMany]
  rfl

/-- Parameters with one value each may as well stand in lists. In an object that has a name twice
they may not: then the second value would replace the first. -/
theorem toRequest_eq_of_spreads_query {event spread : Json} (hOrdered : event.Ordered)
    (h : Spreads "multiValueQueryStringParameters" "queryStringParameters" event spread) :
    toRequest spread = toRequest event := by
  apply toRequest_congr_of_fields
  · intro name hName
    apply h.others <;> (rintro rfl; simp at hName)
  · intro r hNone
    exact withQuery_eq_of_spreads hOrdered h hNone
  · exact settings_congr (h.others _ (by decide) (by decide)) (h.others _ (by decide) (by decide))

/-- Headers with one value each may as well stand in lists. -/
theorem toRequest_eq_of_spreads_headers {event spread : Json}
    (h : Spreads "multiValueHeaders" "headers" event spread) :
    toRequest spread = toRequest event := by
  apply toRequest_congr_of_fields
  · intro name hName
    apply h.others <;> (rintro rfl; simp at hName)
  · intro r _
    exact withQuery_congr (h.others _ (by decide) (by decide))
      (h.others _ (by decide) (by decide)) r
  · exact settings_eq_of_spreads h

/-- Any field with one value for each name can be written as lists in its place. -/
theorem spreads_insert {many one : String} (hNames : many ≠ one) {rest : Fields Json}
    (hMany : rest.get? many = none) (table : Fields Json) :
    Spreads many one (.obj (rest.insert one (.obj table)))
      (.obj (rest.insert many (.obj (table.mapValues fun v => .arr [v])))) where
  single := by rw [Json.field?, Fields.get?_insert_of_ne hNames, hMany, Option.bind_none]
  lists := ⟨table, Fields.get?_insert_self .., Fields.get?_insert_self ..⟩
  others name hOtherMany hOtherOne :=
    (Fields.get?_insert_of_ne hOtherMany _ rest).trans
      (Fields.get?_insert_of_ne hOtherOne _ rest).symm

end InvocationBridge.GatewayEvent
