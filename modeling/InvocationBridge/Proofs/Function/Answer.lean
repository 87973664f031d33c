import InvocationBridge.Function.Deployment
import InvocationBridge.Proofs.Message.Envelope
import InvocationBridge.Proofs.Message.Markers
import InvocationBridge.Proofs.Web.EventFormats
import InvocationBridge.Proofs.Web.Recovery

/-!
What comes back for an invocation.

A gateway request gets the envelope of its response, and the caller of any other event gets a
failure as an error. Output types that are final already stand outside of both.
-/

namespace InvocationBridge.Deployment

open GatewayEvent

variable {σ H : Type}

/-- A deployment reads payloads with the compact codec, so that a text that parses is taken in. -/
theorem value_acceptDecoded_of_parse {raw : Bytes} {payload : Json}
    (hParse : Json.parse raw = .ok payload) (d : Deployment σ H) (context : Json) :
    (d.intake.acceptDecoded raw (.ok context)).value =
      .ok (d.intake.messageOf raw payload context, payload) :=
  Intake.value_acceptDecoded_of_ok hParse context

/-- An invocation with a payload that parses: the dispatch, and then the answer for what it left.
This is where later lemmas start from. -/
theorem result_invoke_of_parse {raw : Bytes} {payload : Json}
    (hParse : Json.parse raw = .ok payload) (d : Deployment σ H) (context : Json) (s : σ) :
    (d.invoke raw (.ok context)).result s =
      let (served, s') := (d.dispatch raw payload).result s
      ((served.ending.map fun () =>
          (d.answer (d.intake.messageOf raw payload context) served.response).value,
        { d with dispatcher := served.dispatcher }), s') := by
  have hAccept := value_acceptDecoded_of_parse hParse d context
  obtain ⟨served, s', hDispatch⟩ : ∃ served s', (d.dispatch raw payload).result s = (served, s') :=
    ⟨_, _, rfl⟩
  cases hEnding : served.ending with
  | error panic => simp [invoke, hAccept, hDispatch, hEnding, Except.map]
  | ok =>
      simp [invoke, hAccept, hDispatch, hEnding, Except.map]
      rfl

/-- An answer that an invocation comes back with is the one to its message and response. -/
theorem eq_value_answer {d d' : Deployment σ H} {raw : Bytes} {context payload : Json}
    {request : Message} {served : Dispatcher.Served σ H} {s s' s'' : σ}
    {answer : Except InvocationFailure Bytes}
    (hAccept : (d.intake.acceptDecoded raw (.ok context)).value = .ok (request, payload))
    (hDispatch : (d.dispatch raw payload).result s = (served, s'))
    (hAnswer : (d.invoke raw (.ok context)).result s = ((.ok answer, d'), s'')) :
    answer = (d.answer request served.response).value := by
  cases hParse : Json.parse raw with
  | error error =>
      have hRefuse : (d.intake.acceptDecoded raw (.ok context)).value =
          .error (.notDecoded error) := Intake.value_acceptDecoded_of_error hParse context
      rw [hAccept] at hRefuse
      cases hRefuse
  | ok decoded =>
      have hDecoded := value_acceptDecoded_of_parse hParse d context
      rw [hAccept] at hDecoded
      obtain ⟨rfl, rfl⟩ := Prod.mk.inj (Except.ok.inj hDecoded)
      rw [result_invoke_of_parse hParse, hDispatch] at hAnswer
      cases hEnding : served.ending with
      | error panic => simp [hEnding, Except.map] at hAnswer
      | ok =>
          simp only [hEnding, Except.map, Prod.mk.injEq, Except.ok.injEq] at hAnswer
          exact hAnswer.1.1.symm

/-- Without the flag, a failure on record is the answer, and the body of the response is not. -/
theorem value_answer_of_failure {request : Message} {response : Response} {record : FailureRecord}
    (hFlag : request.isSet Message.gatewayFlag = false)
    (hFailure : response.failure = some record) (d : Deployment σ H) :
    (d.answer request response).value =
      .error (.application record.status record.message) := by
  simp [answer, hFlag, hFailure]

/-- The octets of a response: its body as it is, or inside an envelope for a gateway. -/
theorem value_answer_of_response (d : Deployment σ H) {request : Message} (response : Response)
    (h : request.isSet Message.gatewayFlag = true ∨ response.failure = none) :
    (d.answer request response).value = .ok
      (if Reply.isFinalType d.settings.outputType || !request.isSet Message.gatewayFlag then
        response.body
      else
        (Reply.envelope response.status (request.hasHeader Message.recordsHeader) response.body
          (some response.toMessage.headers)).bytes) := by
  have hKept (octets : Bytes) : (Except.ok octets).mapError InvocationFailure.bridge =
      .ok octets := rfl
  unfold answer
  cases hFlag : request.isSet Message.gatewayFlag <;> cases hFailure : response.failure <;>
    simp_all [Reply.value_encode_toMessage]

/-- What tells the caller of a failure: an error with its status and message, or an answer that
spells its status. -/
inductive Tells (record : FailureRecord) : Except InvocationFailure Bytes → Prop where
  | error : Tells record (.error (.application record.status record.message))
  | spelled {answer : Bytes} {value : Json} (hParse : Json.parse answer = .ok value)
      (hStatus : value.field? "statusCode" = some (.ofNat record.status.code)) :
      Tells record (.ok answer)

/-- The envelope around a response with a failure on record tells its status. -/
theorem tells_envelope {response : Response} {record : FailureRecord}
    (hFailure : response.failure = some record) (describe : Bool) :
    Tells record (.ok (Reply.envelope response.status describe response.body
      (some response.toMessage.headers)).bytes) := by
  obtain ⟨fields, hParse, hWraps⟩ := Reply.exists_wraps response describe
  refine .spelled hParse ?_
  rw [← response.status_of_failure record hFailure]
  exact hWraps.status

/-- The caller can tell that an invocation failed, with one exception: in answer to a gateway, an
output type that is final already sends the bare body. -/
theorem tells_iff {d d' : Deployment σ H} {raw : Bytes} {context payload : Json}
    {request : Message} {served : Dispatcher.Served σ H} {s s' : σ} {record : FailureRecord}
    {answer : Except InvocationFailure Bytes}
    (hAccept : (d.intake.acceptDecoded raw (.ok context)).value = .ok (request, payload))
    (hDispatch : (d.dispatch raw payload).result s = (served, s'))
    (hFailure : served.response.failure = some record)
    (hAnswer : (d.invoke raw (.ok context)).result s = ((.ok answer, d'), s')) :
    (Tells record answer ↔
      ¬ (request.isSet Message.gatewayFlag ∧ Reply.isFinalType d.settings.outputType) ∨
        Tells record (.ok served.response.body)) ∧
    (request.isSet Message.gatewayFlag → Reply.isFinalType d.settings.outputType →
      answer = .ok served.response.body) := by
  obtain rfl := eq_value_answer hAccept hDispatch hAnswer
  cases hFlag : request.isSet Message.gatewayFlag with
  | false =>
      rw [value_answer_of_failure hFlag hFailure]
      exact ⟨iff_of_true .error (.inl (by simp)), by simp⟩
  | true =>
      rw [value_answer_of_response _ _ (.inl hFlag), hFlag]
      cases hFinal : Reply.isFinalType d.settings.outputType with
      | false =>
          exact ⟨iff_of_true (tells_envelope hFailure _) (.inl (by simp)), by simp⟩
      | true => simp

/-- A deployment that lets no request through. -/
def refusing (outputType : Option String) : Deployment Unit Unit where
  dispatcher := .ready {
    find := fun _ _ => pure (.failed (.accessDenied "Access denied"))
    run := fun _ _ response => pure (.returned (), response) }
  settings := { outputType := outputType }

/-- A gateway request for the root. -/
def rootRequest : Json := .obj [("httpMethod", .str "GET"), ("path", .str "/")]

/-- What a deployment that lets no request through makes of the response. -/
def refusal : Response where
  status := .forbidden
  body := Bytes.ofText "Access denied"
  failure := some ⟨.forbidden, "Access denied", none⟩
  status_of_failure := by simp

theorem parse_rootRequest : Json.parse rootRequest.bytes = .ok rootRequest :=
  Json.parse_bytes (.obj (Fields.sorted_of_map_fst ["httpMethod", "path"] rfl (by decide))
    (by simp [Json.Plain.str]))

theorem value_requestFor_rootRequest (d : Deployment σ H) (raw : Bytes) :
    (d.requestFor raw rootRequest).value = .ok { method := .get, path := "/" } := rfl

theorem result_dispatch_refusing (outputType : Option String) (raw : Bytes) :
    ((refusing outputType).dispatch raw rootRequest).result () =
      (⟨.ok (), refusal, (refusing outputType).dispatcher⟩, ()) := by
  have hSettled : ({} : Response).settled (.accessDenied "Access denied") = refusal := rfl
  have hServes : (refusing outputType).dispatcher.Serves { method := .get, path := "/" } {} ()
      ⟨.ok (), refusal, (refusing outputType).dispatcher⟩ () :=
    hSettled ▸ .ran (.running ..) (.recovered (.unresolved rfl) (.failure (by simp)) rfl)
  simp only [dispatch, Effect.result_bind, Effect.result_liftM, value_requestFor_rootRequest]
  exact (Dispatcher.result_serve_iff ..).mpr hServes

/-- The whole invocation, but for the answer, which depends on the output type. -/
theorem result_invoke_refusing (outputType : Option String) :
    ((refusing outputType).invoke rootRequest.bytes (.ok .null)).result () =
      ((.ok ((refusing outputType).answer
          ((refusing outputType).intake.messageOf rootRequest.bytes rootRequest .null)
          refusal).value, refusing outputType), ()) := by
  rw [result_invoke_of_parse parse_rootRequest, result_dispatch_refusing]
  rfl

/-- Without an output type the failure is told. -/
theorem exists_tells_refusing : ∃ answer,
    ((refusing none).invoke rootRequest.bytes (.ok .null)).result () =
      ((.ok answer, refusing none), ()) ∧
    Tells ⟨.forbidden, "Access denied", none⟩ answer := by
  have hAccept := value_acceptDecoded_of_parse parse_rootRequest (refusing none) .null
  have hDispatch := result_dispatch_refusing none rootRequest.bytes
  have hAnswer := result_invoke_refusing none
  refine ⟨_, hAnswer, ?_⟩
  exact (tells_iff hAccept hDispatch rfl hAnswer).1.mpr
    (.inl (by simp [refusing, Reply.isFinalType]))

theorem isFinalType_apiGatewayProxyResponse :
    Reply.isFinalType (some "ApiGatewayProxyResponse") = true := by
  have hSimple : TypeName.simple "ApiGatewayProxyResponse" = "ApiGatewayProxyResponse" := by
    rw [TypeName.simple, TypeName.simpleChars]
    decide
  simp [Reply.isFinalType, hSimple, Reply.finalTypes]

/-- The body of the refusal is no JSON text, hence not the envelope that a gateway expects. -/
theorem exists_parse_refusal : ∃ error, Json.parse refusal.body = .error error := by
  have hBody : refusal.body = 0x41 :: Bytes.ofText "ccess denied" := by decide
  rw [hBody, Json.parse, Json.Reader.whole, Json.Reader.value.eq_def]
  exact ⟨_, rfl⟩

/-- Not every failure is told to the caller. -/
theorem exists_not_tells : ¬ ∀ (d d' : Deployment Unit Unit) (raw : Bytes) (context payload : Json)
    (request : Message) (served : Dispatcher.Served Unit Unit) (record : FailureRecord)
    (answer : Except InvocationFailure Bytes), d.dispatcher ≠ .stopped →
      (d.intake.acceptDecoded raw (.ok context)).value = .ok (request, payload) →
      (d.dispatch raw payload).result () = (served, ()) →
      served.response.failure = some record →
      (d.invoke raw (.ok context)).result () = ((.ok answer, d'), ()) → Tells record answer := by
  intro h
  have hAccept := value_acceptDecoded_of_parse parse_rootRequest
    (refusing (some "ApiGatewayProxyResponse")) .null
  have hTells := h _ _ _ _ _ _ _ _ _ (by simp [refusing]) hAccept (result_dispatch_refusing _ _)
    rfl (result_invoke_refusing _)
  have hFlag : ((refusing (some "ApiGatewayProxyResponse")).intake.messageOf rootRequest.bytes
      rootRequest .null).isSet Message.gatewayFlag = true :=
    Intake.isSet_gatewayFlag_messageOf rfl ..
  have hFinal : Reply.isFinalType (refusing (some "ApiGatewayProxyResponse")).settings.outputType =
      true := isFinalType_apiGatewayProxyResponse
  rw [value_answer_of_response _ _ (.inl hFlag), hFinal, Bool.true_or, if_pos rfl] at hTells
  obtain ⟨error, hError⟩ := exists_parse_refusal
  cases hTells with
  | spelled hParse => simp [hError] at hParse

/-- A calm dispatcher never panics, and what it never got to see cannot make it panic either. -/
theorem ending_dispatch {d : Deployment σ H} (hCalm : d.dispatcher.IsCalm) (raw : Bytes)
    (payload : Json) (s : σ) : ((d.dispatch raw payload).result s).1.ending = .ok () := by
  cases hRequest : (d.requestFor raw payload).value with
  | error failure => simp [dispatch, hRequest]
  | ok request => simpa [dispatch, hRequest] using hCalm.ending_serve request {} s

theorem isFinalType_eq_false {declared : Option String}
    (h : ∀ name, declared = some name → TypeName.simple name ∉ Reply.finalTypes) :
    Reply.isFinalType declared = false := by
  cases declared with
  | none => rfl
  | some name => simpa [Reply.isFinalType] using h name rfl

/-- The answer to a gateway spells the envelope of the response. -/
theorem exists_answer_wraps {d : Deployment σ H}
    (hFinal : Reply.isFinalType d.settings.outputType = false) {raw : Bytes}
    {payload context : Json}
    (hFlag : (d.intake.messageOf raw payload context).isSet Message.gatewayFlag = true)
    (response : Response) :
    ∃ octets fields,
      (d.answer (d.intake.messageOf raw payload context) response).value = .ok octets ∧
      Json.parse octets = .ok (.obj fields) ∧
      Reply.Wraps response (∃ value, Intake.Brings payload Message.recordsHeader value) fields := by
  have hAnswer := d.value_answer_of_response response (.inl hFlag)
  rw [hFinal, hFlag, Intake.hasHeader_recordsHeader_messageOf] at hAnswer
  obtain ⟨fields, hSpells, hWraps⟩ := Reply.exists_wraps response
    ((Intake.callerHeaders payload).contains Message.recordsHeader)
  rw [propext (Intake.contains_callerHeaders_iff_brings payload Message.recordsHeader)] at hWraps
  exact ⟨_, fields, hAnswer, hSpells, hWraps⟩

/-- A gateway request is not posted as an event, whatever the text of it is. -/
theorem requestFor_of_isGatewayRequest {payload : Json} (h : isGatewayRequest payload = true)
    (d : Deployment σ H) (raw : Bytes) : d.requestFor raw payload = toRequest payload := by
  rw [requestFor, if_pos h]

/-- The response to a payload that makes no request. -/
def rejection (message : String) : Response where
  status := .badRequest
  failure := some ⟨.badRequest, message, none⟩
  status_of_failure := by simp

/-- An event that describes no request is put on record without the dispatcher. -/
theorem result_dispatch_of_rejected {payload : Json} {message : String}
    (hShape : isGatewayRequest payload = true)
    (hRequest : (toRequest payload).value = .error (.badRequest message)) (d : Deployment σ H)
    (raw : Bytes) (s : σ) :
    (d.dispatch raw payload).result s = (⟨.ok (), rejection message, d.dispatcher⟩, s) := by
  simp only [dispatch, requestFor_of_isGatewayRequest hShape, Effect.result_bind,
    Effect.result_liftM, hRequest]
  rfl

/-- The response to an event that describes no request. Its failure is on record, and nothing was
written. -/
structure IsRejection (message : String) (response : Response) : Prop where
  code : response.status.code = 400
  record : response.failure = some ⟨response.status, message, none⟩
  headers : response.headers = .empty
  body : response.body = []

/-- The response that the bridge makes for a bad request is the rejection that
`IsRejection` spells out. -/
theorem isRejection_rejection (message : String) : IsRejection message (rejection message) :=
  ⟨rfl, rfl, rfl, rfl⟩

/-- What a gateway event comes to from the state `s`: the dispatcher serves the request that the event
describes, or else the event is rejected, of which the dispatcher hears nothing. -/
inductive Yields (d : Deployment σ H) (event : Json) (s : σ) :
    Dispatcher.Served σ H → σ → Prop where
  | served {request : Request} {served : Dispatcher.Served σ H} {s' : σ}
      (hRequest : (toRequest event).value = .ok request)
      (hServes : d.dispatcher.Serves request {} s served s') : Yields d event s served s'
  | rejected {message : String} {response : Response}
      (hRequest : (toRequest event).value = .error (.badRequest message))
      (hRejection : IsRejection message response) :
      Yields d event s ⟨.ok (), response, d.dispatcher⟩ s

/-- Dispatching an event of a gateway yields what its request comes to, or the rejection if
it makes none. -/
theorem yields_of_dispatch {d : Deployment σ H} {event : Json}
    (hShape : isGatewayRequest event = true) {raw : Bytes} {s s' : σ}
    {served : Dispatcher.Served σ H} (hDispatch : (d.dispatch raw event).result s = (served, s')) :
    d.Yields event s served s' := by
  cases hRequest : (toRequest event).value with
  | error failure =>
      obtain ⟨message, rfl⟩ := exists_badRequest hRequest
      rw [result_dispatch_of_rejected hShape hRequest] at hDispatch
      cases hDispatch
      exact .rejected hRequest (isRejection_rejection message)
  | ok request =>
      simp only [dispatch, requestFor_of_isGatewayRequest hShape, Effect.result_bind,
        Effect.result_liftM, hRequest] at hDispatch
      exact .served hRequest ((Dispatcher.result_serve_iff ..).mp hDispatch)

/-- Everything that a gateway gets for a request that it sent, whatever the handlers did with it: the
envelope of the response that serving the request leaves, or of the rejection of an event that
describes none. The dispatcher and the state are left as serving leaves them. -/
theorem invoke_wraps {d : Deployment σ H} (hCalm : d.dispatcher.IsCalm)
    (hType : ∀ name, d.settings.outputType = some name →
      TypeName.simple name ∉ Reply.finalTypes)
    {raw : Bytes} {fields : Fields Json} (hParse : Json.parse raw = .ok (.obj fields))
    (hShape : fields.contains "httpMethod" ∨ fields.contains "routeKey" ∧ fields.contains "version")
    (hFlag : ∀ headers : Fields Json, fields.get? "headers" = some (.obj headers) →
      headers.contains Message.gatewayFlag = false)
    (context : Json) (s : σ) :
    ∃ served s' answer envelope,
      d.Yields (.obj fields) s served s' ∧
      (d.invoke raw (.ok context)).result s =
        ((.ok (.ok answer), { d with dispatcher := served.dispatcher }), s') ∧
      Json.parse answer = .ok (.obj envelope) ∧
      Reply.Wraps served.response
        (∃ headers : Fields Json, fields.get? "headers" = some (.obj headers) ∧
          headers.contains Message.recordsHeader) envelope := by
  obtain ⟨served, s', hDispatch⟩ :
      ∃ served s', (d.dispatch raw (.obj fields)).result s = (served, s') := ⟨_, _, rfl⟩
  have hEnding : served.ending = .ok () := by
    have h := ending_dispatch hCalm raw (.obj fields) s
    rwa [hDispatch] at h
  have hGateway : isGatewayRequest (.obj fields) = true :=
    (Intake.isGatewayRequest_obj_iff fields).mpr hShape
  have hIsSet : (d.intake.messageOf raw (.obj fields) context).isSet Message.gatewayFlag = true :=
    Intake.isSet_gatewayFlag_messageOf_obj hGateway hFlag ..
  obtain ⟨answer, envelope, hAnswer, hSpells, hWraps⟩ :=
    exists_answer_wraps (isFinalType_eq_false hType) hIsSet served.response
  rw [← propext (Intake.contains_callerHeaders_iff_brings ..),
    propext (Intake.contains_callerHeaders_iff fields Message.recordsHeader)] at hWraps
  refine ⟨served, s', answer, envelope, yields_of_dispatch hGateway hDispatch, ?_, hSpells, hWraps⟩
  rw [result_invoke_of_parse hParse, hDispatch]
  simp only [hEnding, Except.map, hAnswer]

/-- A header of which the response has several values, one of them no UTF-8. -/
def tagHeader : Http.HeaderName := ⟨"x-tag", by decide⟩

/-- A deployment that has seen nothing, and says so in octets that are no UTF-8 either. -/
def tagging : Deployment Unit Unit where
  dispatcher := .ready {
    find := fun _ _ => pure (.returned ())
    run := fun _ _ response => do
      let response ← response.withStatus .notFound
      let tagged := response.addHeader tagHeader ⟨[0x62], by decide⟩
      return (.returned (), (tagged.addHeader tagHeader ⟨[0x61, 0xFF], by decide⟩).write [0x68, 0xC3]) }
  settings := {}

theorem isCalm_tagging : tagging.dispatcher.IsCalm :=
  Dispatcher.isCalm_ready (by simp [Application.IsCalm])

/-- A gateway request with a header for records, of which nothing but its presence counts. -/
def recordsRequest : Json :=
  .obj [("headers", .obj [(Message.recordsHeader, .null)]), ("httpMethod", .str "GET")]

theorem parse_recordsRequest : Json.parse recordsRequest.bytes = .ok recordsRequest := by
  have hHeaders : (Json.obj [(Message.recordsHeader, .null)]).Plain 126 :=
    .obj (List.pairwise_singleton ..) (by simp [Json.Plain.null])
  exact Json.parse_bytes (.obj
    (Fields.sorted_of_map_fst ["headers", "httpMethod"] rfl (by decide))
    (by simp [hHeaders, Json.Plain.str]))

theorem invoke_recordsRequest : ∃ (answer : Bytes) (envelope headers : Fields Json),
    (tagging.invoke recordsRequest.bytes (.ok .null)).result () =
      ((.ok (.ok answer), tagging), ()) ∧
    Json.parse answer = .ok (.obj envelope) ∧
    envelope.get? "statusCode" = some (.ofNat 404) ∧
    envelope.get? "statusDescription" = some (.str "404 Not Found") ∧
    envelope.get? "body" = some (.str "h\uFFFD") ∧
    envelope.get? "headers" = some (.obj headers) ∧
    headers.get? "statusCode" = some (.str "404") ∧
    headers.get? "x-tag" = some (.str "b,a\uFFFD") := by
  have hFlag : ∀ headers : Fields Json,
      Fields.get? "headers" [("headers", Json.obj [(Message.recordsHeader, .null)]),
        ("httpMethod", .str "GET")] = some (.obj headers) →
      headers.contains Message.gatewayFlag = false := by
    rintro headers ⟨⟩
    rfl
  obtain ⟨served, s', answer, envelope, hYields, hInvoke, hSpells, hWraps⟩ :=
    invoke_wraps isCalm_tagging (by simp [tagging]) parse_recordsRequest (.inl rfl) hFlag .null ()
  cases hYields with
  | rejected hRequest => cases hRequest
  | served hRequest hServes =>
      cases hRequest
      cases (Dispatcher.result_serve_iff ..).mpr hServes
      obtain ⟨headers, hHeaders, hLists⟩ := hWraps.headers
      exact ⟨answer, envelope, headers, hInvoke, hSpells, hWraps.status,
        hWraps.description ⟨_, rfl, rfl⟩, hWraps.body, hHeaders, hLists.status,
        hLists.values "x-tag" _ rfl⟩

end InvocationBridge.Deployment
