import InvocationBridge.Proofs.Function.Answer

/-!
What becomes of events that are no gateway requests.

The application sees such an event as one request that posts the payload, octet by octet. The body
of the response is the answer, or a failure on record is, whatever the output type.
-/

namespace InvocationBridge.Deployment

variable {σ H : Type}

/-- The name of the kind of events that a deployment is for: of the kind that its catalog has under the
simple name of the declared input type, or `unknown` without one. -/
inductive Expects (d : Deployment σ H) : String → Prop where
  | registered {declared : String} {kind : EventKind}
      (hDeclared : d.settings.inputType = some declared)
      (hKind : d.catalog.kinds.get? (TypeName.simple declared) = some kind) : Expects d kind.name
  | unknown (hNone : ∀ declared, d.settings.inputType = some declared →
      d.catalog.kinds.get? (TypeName.simple declared) = none) : Expects d "unknown"

/-- The request for an event: its payload as it came, posted to the event route, with two headers
for what it is. -/
structure Posts (d : Deployment σ H) (raw : Bytes) (request : Request) : Prop where
  method : request.method = .post
  path : request.path = d.settings.eventRoute
  query : request.query = []
  body : request.body = raw
  headers : ∃ (kind : String) (type value : Http.HeaderValue), d.Expects kind ∧
    type.octets = Bytes.ofText "application/json" ∧ value.octets = Bytes.ofText kind ∧
    request.headers.fields = [("content-type", [type]), ("x-event-kind", [value])]

/-- An answer that is the body of the response if there is no failure on record, and otherwise an
error with status and message of the failure. -/
structure Relays (response : Response) (answer : Except InvocationFailure Bytes) : Prop where
  ok_iff : ∀ octets, answer = .ok octets ↔ response.failure = none ∧ octets = response.body
  error_iff : ∀ failure, answer = .error failure ↔
    ∃ record, response.failure = some record ∧ failure = .application record.status record.message

/-- The kind that a deployment goes by is the one that it expects. -/
theorem expects_kindName (d : Deployment σ H) : d.Expects d.kindName := by
  unfold kindName
  cases hKind : d.catalog.kind? d.settings.inputType with
  | some kind =>
      obtain ⟨declared, hDeclared, hGet⟩ := Option.bind_eq_some_iff.mp hKind
      exact .registered hDeclared hGet
  | none =>
      refine .unknown fun declared hDeclared => ?_
      rwa [hDeclared] at hKind

/-- A deployment expects one kind of events. -/
theorem Expects.unique {d : Deployment σ H} {kind other : String} (h : d.Expects kind)
    (hOther : d.Expects other) : kind = other := by
  cases h with
  | registered hDeclared hKind =>
      cases hOther with
      | registered hDeclared' hKind' =>
          cases hDeclared.symm.trans hDeclared'
          cases hKind.symm.trans hKind'
          rfl
      | unknown hNone => cases hKind.symm.trans (hNone _ hDeclared)
  | unknown hNone =>
      cases hOther with
      | registered hDeclared hKind => cases hKind.symm.trans (hNone _ hDeclared)
      | unknown => rfl

/-- The header for the kind holds the name of the kind, whichever one it is. -/
theorem octets_kindValue (d : Deployment σ H) : d.kindValue.octets = Bytes.ofText d.kindName := by
  unfold kindValue kindName
  cases d.catalog.kind? d.settings.inputType <;> rfl

theorem text?_kindValue (d : Deployment σ H) : d.kindValue.text? = some d.kindName := by
  unfold kindValue kindName
  cases d.catalog.kind? d.settings.inputType with
  | none => decide
  | some kind => cases kind <;> decide

/-- The application can read what kind of event it was sent. -/
theorem header?_eventRequest (d : Deployment σ H) (raw : Bytes) :
    (d.eventRequest raw).header? PetStore.kindHeader.text = some d.kindName := by
  have hName : Http.HeaderName.parse? PetStore.kindHeader.text = some PetStore.kindHeader := rfl
  have hValues : (d.eventRequest raw).headers.values PetStore.kindHeader = [d.kindValue] := rfl
  simp only [Request.header?, Http.Headers.text?, hName, hValues, Option.bind_eq_bind,
    Option.bind_some, List.head?_cons, text?_kindValue]

/-- The request that is made for an event posts its payload as it came. -/
theorem posts_eventRequest (d : Deployment σ H) (raw : Bytes) :
    d.Posts raw (d.eventRequest raw) where
  method := rfl
  path := rfl
  query := rfl
  body := rfl
  headers := ⟨d.kindName, .json, d.kindValue, d.expects_kindName, rfl, d.octets_kindValue, rfl⟩

/-- An event costs one request, and nothing happens beside it. -/
theorem result_dispatch_event {payload : Json} (hEvent : isGatewayRequest payload = false)
    (d : Deployment σ H) (raw : Bytes) (s : σ) :
    (d.dispatch raw payload).result s = (d.dispatcher.serve (d.eventRequest raw) {}).result s := by
  have hRequest : (d.requestFor raw payload).value = .ok (d.eventRequest raw) := by
    simp [requestFor, hEvent]
  simp [dispatch, hRequest]

/-- Without the flag, the answer relays the response: its body, or the failure on record. -/
theorem relays_answer {request : Message} (hFlag : request.isSet Message.gatewayFlag = false)
    (d : Deployment σ H) (response : Response) :
    Relays response (d.answer request response).value := by
  cases hFailure : response.failure with
  | none =>
      have hAnswer : (d.answer request response).value = .ok response.body := by
        rw [value_answer_of_response d response (.inr hFailure), hFlag]
        simp
      rw [hAnswer]
      refine ⟨fun octets => ?_, fun failure => ?_⟩
      · simp [hFailure, eq_comm]
      · simp [hFailure]
  | some record =>
      rw [value_answer_of_failure hFlag hFailure d]
      refine ⟨fun octets => ?_, fun failure => ?_⟩
      · simp [hFailure]
      · simp [hFailure, eq_comm]

/-- Everything that happens for an event that is no gateway request: the dispatcher serves the one
request that posts it, nothing else changes its state, and the answer relays the response. That is
the response of a handler that returned, or else the first failure is on it. -/
theorem invoke_relays {d : Deployment σ H} (hCalm : d.dispatcher.IsCalm) {raw : Bytes}
    {payload : Json} (hParse : Json.parse raw = .ok payload)
    (hShape : ¬ (payload.hasField "httpMethod" ∨
      payload.hasField "routeKey" ∧ payload.hasField "version"))
    (hFlag : ∀ headers : Fields Json, payload.field? "headers" = some (.obj headers) →
      headers.get? Message.gatewayFlag ≠ some (.bool true))
    (context : Json) (s : σ) :
    ∃ request served s' answer,
      d.Posts raw request ∧
      (d.dispatcher.serve request {}).result s = (served, s') ∧
      (d.invoke raw (.ok context)).result s =
        ((.ok answer, { d with dispatcher := served.dispatcher }), s') ∧
      Relays served.response answer ∧
      ((∃ app s₁, d.dispatcher.Engages s app s₁ ∧
          app.Attempts request {} s₁ (.returned ()) served.response s') ∨
        ∃ left failure, d.dispatcher.Fails request {} s left failure ∧
          served.response.failure = some (left.failure.getD failure.record)) := by
  have hEvent : isGatewayRequest payload = false := by
    simpa [isGatewayRequest] using hShape
  obtain ⟨served, s', hServe⟩ : ∃ served s',
      (d.dispatcher.serve (d.eventRequest raw) {}).result s = (served, s') := ⟨_, _, rfl⟩
  have hEnding : served.ending = .ok () := by
    have h := hCalm.ending_serve (d.eventRequest raw) {} s
    rwa [hServe] at h
  have hUnset := Intake.isSet_gatewayFlag_messageOf_of_not (Json.ordered_of_parse hParse) hEvent
    hFlag d.intake raw context
  refine ⟨d.eventRequest raw, served, s', _, d.posts_eventRequest raw, hServe, ?_,
    d.relays_answer hUnset served.response, Dispatcher.attempts_or_fails hServe hEnding⟩
  rw [result_invoke_of_parse hParse, result_dispatch_event hEvent, hServe]
  simp only [hEnding, Except.map]

/-- A deployment for events of a queue that sends back the kind and the body of a request. -/
def echoing : Deployment Unit Unit where
  dispatcher := .ready {
    find := fun _ _ => pure (.returned ())
    run := fun _ request response =>
      let kinds := request.headers.values PetStore.kindHeader
      pure (.returned (), response.write (kinds.flatMap Http.HeaderValue.octets ++ request.body)) }
  settings := { inputType := some "events::SqsEvent", outputType := some "ApiGatewayProxyResponse" }

/-- An event without records, which says that it is from no gateway. -/
def emptyEvent : Json :=
  .obj [("Records", .arr []), ("headers", .obj [(Message.gatewayFlag, .bool false)])]

theorem parse_emptyEvent : Json.parse emptyEvent.bytes = .ok emptyEvent := by
  have hHeaders : (Json.obj [(Message.gatewayFlag, .bool false)]).Plain 126 :=
    .obj (List.pairwise_singleton ..) (by simp [Json.Plain.bool])
  refine Json.parse_bytes (.obj (Fields.sorted_of_map_fst ["Records", "headers"] rfl (by decide)) ?_)
  intro field hField
  rcases List.mem_cons.mp hField with rfl | hLast
  · exact .arr nofun
  · obtain rfl := List.mem_singleton.mp hLast
    exact hHeaders

theorem isCalm_echoing : echoing.dispatcher.IsCalm :=
  Dispatcher.isCalm_ready (by simp [Application.IsCalm])

/-- The declared input type is registered under its simple name. -/
theorem expects_echoing : echoing.Expects "queue" := by
  have hKind : echoing.catalog.kinds.get? (TypeName.simple "events::SqsEvent") = some .queue := by
    rw [Intake.simple_queueType]
    rfl
  exact .registered rfl hKind

theorem invoke_echoing :
    (echoing.invoke emptyEvent.bytes (.ok .null)).result () =
      ((.ok (.ok (Bytes.ofText "queue" ++ emptyEvent.bytes)), echoing), ()) := by
  have hFlag : ∀ headers : Fields Json, emptyEvent.field? "headers" = some (.obj headers) →
      headers.get? Message.gatewayFlag ≠ some (.bool true) := by
    intro headers hHeaders hSet
    obtain rfl : headers = [(Message.gatewayFlag, .bool false)] := by
      simpa [emptyEvent, Json.field?, Fields.get?, eq_comm] using hHeaders
    simp [Fields.get?] at hSet
  obtain ⟨request, served, s', answer, hPosts, hServe, hInvoke, hRelays, -⟩ :=
    invoke_relays isCalm_echoing parse_emptyEvent (by decide) hFlag .null ()
  obtain ⟨rfl, rfl⟩ := Prod.mk.inj hServe
  obtain ⟨kind, type, value, hKind, -, hValue, hFields⟩ := hPosts.headers
  have hValues : request.headers.values PetStore.kindHeader = [value] := by
    rw [Http.Headers.values, hFields]
    rfl
  have hAnswer : answer = .ok (Bytes.ofText "queue" ++ emptyEvent.bytes) := by
    refine (hRelays.ok_iff _).mpr ⟨rfl, ?_⟩
    have hBody : (request.headers.values PetStore.kindHeader).flatMap Http.HeaderValue.octets ++
        request.body = Bytes.ofText "queue" ++ emptyEvent.bytes := by
      rw [hValues, List.flatMap_singleton, hValue, hKind.unique expects_echoing, hPosts.body]
    exact hBody.symm
  rw [hInvoke, hAnswer]
  rfl

end InvocationBridge.Deployment
