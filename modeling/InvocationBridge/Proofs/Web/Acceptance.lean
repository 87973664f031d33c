import InvocationBridge.Proofs.Base64
import InvocationBridge.Proofs.Web.EventSettings

/-!
The events that describe a request, and the method, path and body that the request has from them.

`Refused` lists the reasons to refuse an event, and `Describes` says where the parts of a request
come from. Both speak of the event alone, whatever JSON value it is.
-/

namespace InvocationBridge.GatewayEvent

/-- `value` stands at the first of some places of an event where there is anything. -/
def FirstAt (places : List (List String)) (event value : Json) : Prop :=
  ∃ before place after, places = before ++ place :: after ∧ event.at? place = some value ∧
    ∀ earlier ∈ before, event.at? earlier = none

def methodPlaces : List (List String) := [["httpMethod"], ["requestContext", "http", "method"]]

def pathPlaces : List (List String) :=
  [["path"], ["rawPath"], ["requestContext", "http", "path"]]

/-- The octets that an event has for a body. -/
inductive Carries (event : Json) : Bytes → Prop where
  | nothing (hText : ∀ text, event.field? "body" ≠ some (.str text)) : Carries event []
  | plain {text : String} (hText : event.field? "body" = some (.str text))
      (hEncoded : event.field? "isBase64Encoded" ≠ some (.bool true)) :
      Carries event (Bytes.ofText text)
  | encoded {text : String} {octets : Bytes} (hText : event.field? "body" = some (.str text))
      (hEncoded : event.field? "isBase64Encoded" = some (.bool true))
      (hOctets : Bytes.ofText text = Base64.encode octets) : Carries event octets

/-- The method, path and body of a request are those of an event. -/
structure Describes (event : Json) (request : Request) : Prop where
  method : FirstAt methodPlaces event (.str request.method.name)
  path : FirstAt pathPlaces event (.str request.path) ∨
    request.path = "/" ∧ ∀ text, ¬FirstAt pathPlaces event (.str text)
  body : Carries event request.body

/-- The reasons to refuse an event. -/
inductive Refused (event : Json) : Prop where
  | noMethod (hText : ∀ text, ¬FirstAt methodPlaces event (.str text))
  | noToken {text : String} (hText : FirstAt methodPlaces event (.str text))
      (hToken : text = "" ∨ ∃ c ∈ text.toList, Http.isTokenChar c = false)
  | noOctets {text : String} (hText : event.field? "body" = some (.str text))
      (hEncoded : event.field? "isBase64Encoded" = some (.bool true))
      (hOctets : ∀ octets, Bytes.ofText text ≠ Base64.encode octets)

variable {event value : Json}

/-- The first value among some places is found by going through them in order. -/
theorem firstAt_iff {places : List (List String)} :
    FirstAt places event value ↔ places.findSome? (Json.at? · event) = some value :=
  List.findSome?_eq_some_iff.symm

theorem FirstAt.unique {places : List (List String)} {other : Json}
    (h : FirstAt places event value) (hOther : FirstAt places event other) : value = other :=
  Option.some.inj ((firstAt_iff.mp h).symm.trans (firstAt_iff.mp hOther))

theorem at?_singleton (name : String) (event : Json) : event.at? [name] = event.field? name := by
  rw [Json.at?]
  cases event.field? name <;> rfl

theorem bind_str?_eq_some_iff {found : Option Json} {text : String} :
    found.bind Json.str? = some text ↔ found = some (.str text) := by
  cases found with
  | none => exact ⟨nofun, nofun⟩
  | some v => cases v <;> simp [Json.str?]

theorem getD_bool?_iff {found : Option Json} :
    (found.bind Json.bool?).getD false = true ↔ found = some (.bool true) := by
  cases found with
  | none => exact ⟨nofun, nofun⟩
  | some v => cases v <;> simp [Json.bool?]

/-- The method of an event is looked for in one place for each format, and must be a text at the
first that there is. -/
theorem methodText?_eq_some_iff {text : String} :
    (methodValue? event).bind Json.str? = some text ↔ FirstAt methodPlaces event (.str text) := by
  have hPlaces : methodValue? event = methodPlaces.findSome? (Json.at? · event) := by
    simp only [methodValue?, methodPlaces, List.findSome?, at?_singleton]
    cases event.field? "httpMethod" with
    | some _ => rfl
    | none => cases event.at? ["requestContext", "http", "method"] <;> rfl
  rw [bind_str?_eq_some_iff, firstAt_iff, hPlaces]

/-- A method is read exactly if the text at that place is the name of one. -/
theorem method_eq_ok_iff {method : Http.Method} :
    GatewayEvent.method event = .ok method ↔ FirstAt methodPlaces event (.str method.name) := by
  rw [← methodText?_eq_some_iff, GatewayEvent.method]
  cases (methodValue? event).bind Json.str? with
  | none => simp
  | some name =>
      rw [Option.some.injEq, eq_comm (a := name), ← Http.Method.parse?_eq_some_iff]
      dsimp only
      cases Http.Method.parse? name with
      | none => simp
      | some valid => rw [Except.ok.injEq, Option.some.injEq]

theorem pathText?_eq_some_iff {text : String} :
    (event.field? "path" <|> event.field? "rawPath" <|>
      event.at? ["requestContext", "http", "path"]).bind Json.str? = some text ↔
      FirstAt pathPlaces event (.str text) := by
  rw [bind_str?_eq_some_iff, firstAt_iff]
  simp only [pathPlaces, List.findSome?, at?_singleton]
  cases event.field? "path" with
  | some _ => rfl
  | none =>
      cases event.field? "rawPath" with
      | some _ => rfl
      | none => cases event.at? ["requestContext", "http", "path"] <;> rfl

/-- The body is read exactly if the event carries some octets, as text or encoded. -/
theorem body_eq_ok_iff {octets : Bytes} : body event = .ok octets ↔ Carries event octets := by
  cases hText : (event.field? "body").bind Json.str? with
  | none =>
      have hNone : ∀ text, event.field? "body" ≠ some (.str text) := by
        intro text hBody
        rw [bind_str?_eq_some_iff.mpr hBody] at hText
        cases hText
      rw [body, hText]
      constructor
      · intro h
        cases h
        exact .nothing hNone
      · intro h
        cases h with
        | nothing => rfl
        | plain hBody => exact absurd hBody (hNone _)
        | encoded hBody => exact absurd hBody (hNone _)
  | some text =>
      have hBody := bind_str?_eq_some_iff.mp hText
      rw [body, hText]
      dsimp only
      by_cases hEncoded : event.field? "isBase64Encoded" = some (.bool true)
      · rw [if_pos (getD_bool?_iff.mpr hEncoded), mapError_eq_ok_iff, Base64.decode_eq_ok_iff]
        constructor
        · intro hOctets
          exact .encoded hBody hEncoded hOctets
        · intro h
          cases h with
          | nothing hNone => exact absurd hBody (hNone text)
          | plain _ hPlain => exact absurd hEncoded hPlain
          | encoded hSame _ hOctets =>
              rw [hBody] at hSame
              cases hSame
              exact hOctets
      · rw [if_neg (mt getD_bool?_iff.mp hEncoded)]
        constructor
        · intro h
          cases h
          exact .plain hBody hEncoded
        · intro h
          cases h with
          | nothing hNone => exact absurd hBody (hNone text)
          | plain hSame =>
              rw [hBody] at hSame
              cases hSame
              rfl
          | encoded _ hFlag => exact absurd hFlag hEncoded

/-- An event is refused unless it has a method and, if a body is due, its octets. -/
theorem refused_iff :
    Refused event ↔ ¬((∃ method : Http.Method, FirstAt methodPlaces event (.str method.name)) ∧
      ∃ octets, Carries event octets) := by
  constructor
  · intro hRefused ⟨⟨method, hMethod⟩, octets, hCarries⟩
    cases hRefused with
    | noMethod hText => exact hText _ hMethod
    | noToken hText hToken =>
        cases hText.unique hMethod
        have hNone := Http.isToken_eq_false_iff.mpr hToken
        rw [method.isToken_name] at hNone
        cases hNone
    | noOctets hText hEncoded hOctets =>
        cases hCarries with
        | nothing hNone => exact hNone _ hText
        | plain _ hPlain => exact hPlain hEncoded
        | encoded hSame _ hWritten =>
            rw [hText] at hSame
            cases hSame
            exact hOctets _ hWritten
  · intro hNot
    by_cases hText : ∃ text, FirstAt methodPlaces event (.str text)
    · obtain ⟨text, hText⟩ := hText
      by_cases hToken : Http.isToken text.toList = true
      · have hCarries : ∀ octets, ¬Carries event octets := by
          intro octets hCarries
          exact hNot ⟨⟨⟨text, hToken⟩, hText⟩, octets, hCarries⟩
        by_cases hBody : ∃ text, event.field? "body" = some (.str text)
        · obtain ⟨text, hBody⟩ := hBody
          by_cases hEncoded : event.field? "isBase64Encoded" = some (.bool true)
          · exact .noOctets hBody hEncoded fun octets hOctets =>
              hCarries octets (.encoded hBody hEncoded hOctets)
          · exact absurd (.plain hBody hEncoded) (hCarries _)
        · exact absurd (.nothing (not_exists.mp hBody)) (hCarries _)
      · exact .noToken hText (Http.isToken_eq_false_iff.mp (Bool.not_eq_true _ ▸ hToken))
    · exact .noMethod (not_exists.mp hText)

/-- The path never fails: without a text for it, the event asks for the root. -/
theorem path_eq (event : Json) :
    FirstAt pathPlaces event (.str (path event)) ∨
      path event = "/" ∧ ∀ text, ¬FirstAt pathPlaces event (.str text) := by
  cases hText : (event.field? "path" <|> event.field? "rawPath" <|>
      event.at? ["requestContext", "http", "path"]).bind Json.str? with
  | none =>
      refine .inr ⟨by simp only [path, hText, Option.getD_none], ?_⟩
      intro text hFirst
      rw [pathText?_eq_some_iff.mpr hFirst] at hText
      cases hText
  | some text =>
      have hPath : path event = text := by simp only [path, hText, Option.getD_some]
      exact .inl (hPath ▸ pathText?_eq_some_iff.mp hText)

/-- An event makes a request exactly if its method and its body can be read. Neither the path nor
the settings can keep it from that. -/
theorem exists_request_iff (event : Json) :
    (∃ request, (toRequest event).value = .ok request) ↔
      (∃ method : Http.Method, FirstAt methodPlaces event (.str method.name)) ∧
        ∃ octets, Carries event octets := by
  simp only [value_toRequest, bind_eq_ok_iff, method_eq_ok_iff, body_eq_ok_iff]
  constructor
  · intro ⟨_, method, hMethod, octets, hBody, _⟩
    exact ⟨⟨method, hMethod⟩, octets, hBody⟩
  · intro ⟨⟨method, hMethod⟩, octets, hBody⟩
    exact ⟨_, method, hMethod, octets, hBody, rfl⟩

/-- A request that was made is the one that the event describes. -/
theorem describes_of_toRequest_eq {request : Request}
    (h : (toRequest event).value = .ok request) : Describes event request := by
  rw [value_toRequest] at h
  obtain ⟨method, hMethod, h⟩ := bind_eq_ok_iff.mp h
  obtain ⟨octets, hBody, h⟩ := bind_eq_ok_iff.mp h
  cases h
  exact ⟨method_eq_ok_iff.mp hMethod, path_eq event, body_eq_ok_iff.mp hBody⟩

/-- Whatever JSON value an event is, it is refused for the given reasons alone and as a bad request.
Any other event gives a request, with the method, path and body that it describes. -/
theorem toRequest_refuses_iff (event : Json) :
    ((∃ failure, (toRequest event).value = .error failure) ↔ Refused event) ∧
    (∀ failure, (toRequest event).value = .error failure →
      failure.status.code = 400 ∧ ∃ message, failure = .badRequest message) ∧
    ∀ request, (toRequest event).value = .ok request → Describes event request := by
  refine ⟨?_, ?_, fun request => describes_of_toRequest_eq⟩
  · rw [refused_iff, ← exists_request_iff]
    cases (toRequest event).value with
    | error failure => simp
    | ok request => simp
  · intro failure h
    obtain ⟨message, hMessage⟩ := exists_badRequest h
    exact ⟨congrArg (·.status.code) hMessage, message, hMessage⟩

/-- An event with an encoded body and a path that is no text. -/
def pathlessUpload : Json :=
  .obj [("body", .str "aGk="), ("httpMethod", .str "PUT"), ("isBase64Encoded", .bool true),
    ("path", .null), ("rawPath", .str "/pets")]

theorem toRequest_pathlessUpload :
    ∃ request, (toRequest pathlessUpload).value = .ok request ∧ request.method.name = "PUT" ∧
      request.path = "/" ∧ request.body = [0x68, 0x69] ∧ ¬Refused pathlessUpload := by
  obtain ⟨request, hRequest⟩ : ∃ request, (toRequest pathlessUpload).value = .ok request :=
    ⟨_, rfl⟩
  obtain ⟨hRefused, -, hDescribes⟩ := toRequest_refuses_iff pathlessUpload
  obtain ⟨hMethod, hPath, hBody⟩ := hDescribes request hRequest
  have hPut : FirstAt methodPlaces pathlessUpload (.str "PUT") := firstAt_iff.mpr rfl
  have hNull : FirstAt pathPlaces pathlessUpload .null := firstAt_iff.mpr rfl
  refine ⟨request, hRequest, Json.str.inj (hMethod.unique hPut), ?_, ?_, ?_⟩
  · rcases hPath with hText | ⟨hRoot, -⟩
    · cases hText.unique hNull
    · exact hRoot
  · generalize request.body = octets at hBody ⊢
    cases hBody with
    | nothing hNone => exact absurd rfl (hNone _)
    | plain _ hPlain => exact absurd rfl hPlain
    | encoded hText _ hOctets =>
        cases hText
        exact Except.ok.inj (Base64.decode_eq_ok_iff.mpr hOctets).symm
  · intro h
    obtain ⟨failure, hFailure⟩ := hRefused.mpr h
    rw [hRequest] at hFailure
    cases hFailure

end InvocationBridge.GatewayEvent
