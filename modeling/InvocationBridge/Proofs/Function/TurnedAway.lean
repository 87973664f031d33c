import InvocationBridge.Proofs.Function.SameAnswer

/-!
Invocations that never get to the application.

`TurnsAway` lists them with their answers. Such an invocation goes the same way whatever state the
dispatcher is in, so that nothing of the application takes part in it. Any other one uses the
dispatcher, which a stopped one does not allow.
-/

namespace InvocationBridge.Deployment

open GatewayEvent

variable {σ H : Type}

/-- An invocation that is turned away, and its answer: for a context without a JSON form, for a
payload that is none, or for a bad request. A gateway is told of a bad request by a response, a
caller that says it is none by an error. -/
inductive TurnsAway (d : Deployment σ H) (raw : Bytes) :
    Except Json.Error Json → Except InvocationFailure Bytes → Prop where
  | context {cause : Json.Error} :
      TurnsAway d raw (.error cause) (.error (.bridge (.notEncoded "invocation context" cause)))
  | payload {given : Json} {cause : Json.Error} (hParse : Json.parse raw = .error cause) :
      TurnsAway d raw (.ok given) (.error (.bridge (.notDecoded cause)))
  | responded {given payload : Json} {message : String} {octets : Bytes}
      (hParse : Json.parse raw = .ok payload) (hShape : isGatewayRequest payload = true)
      (hRequest : (toRequest payload).value = .error (.badRequest message))
      (hGateway : Intake.FromGateway payload)
      (hEncode : (Reply.encode (d.intake.messageOf raw payload given)
        (some (rejection message).toMessage) .compact d.settings.outputType).value = .ok octets) :
      TurnsAway d raw (.ok given) (.ok octets)
  | raised {given payload value : Json} {message : String}
      (hParse : Json.parse raw = .ok payload) (hShape : isGatewayRequest payload = true)
      (hRequest : (toRequest payload).value = .error (.badRequest message))
      (hBrings : Intake.Brings payload Message.gatewayFlag value) (hFlag : value ≠ .bool true) :
      TurnsAway d raw (.ok given) (.error (.application .badRequest message))

/-- What there is to object to in an invocation before the application gets to see it. -/
def IsUnfit (raw : Bytes) (context : Except Json.Error Json) : Prop :=
  (∃ cause, context = .error cause) ∨ (∃ cause, Json.parse raw = .error cause) ∨
    ∃ payload failure, Json.parse raw = .ok payload ∧ isGatewayRequest payload = true ∧
      (toRequest payload).value = .error failure

/-- An answer that comes without the dispatcher: it is the same for all dispatchers and in all states
of the application, and so is what is logged, while dispatcher and state stay as they are. -/
structure Bypasses (d : Deployment σ H) (raw : Bytes) (context : Except Json.Error Json)
    (answer : Except InvocationFailure Bytes) : Prop where
  result : ∀ (dispatcher : Dispatcher σ H) (s : σ),
    ({ d with dispatcher := dispatcher }.invoke raw context).result s =
      ((.ok answer, { d with dispatcher := dispatcher }), s)
  lines : ∀ (dispatcher other : Dispatcher σ H) (s s' : σ),
    ({ d with dispatcher := dispatcher }.invoke raw context).lines s =
      ({ d with dispatcher := other }.invoke raw context).lines s'

/-- What is refused on the way in never gets to the dispatcher. -/
theorem bypasses_of_acceptDecoded {d : Deployment σ H} {raw : Bytes}
    {context : Except Json.Error Json} {error : MessageError}
    (h : (d.intake.acceptDecoded raw context).value = .error error) :
    d.Bypasses raw context (.error (.bridge error)) := by
  have hAccept (dispatcher : Dispatcher σ H) :
      { d with dispatcher := dispatcher }.intake = d.intake := rfl
  constructor <;> intros <;> simp [invoke, hAccept, h]

/-- The lines that are logged for a bad request do not mention the dispatcher either. -/
theorem lines_dispatch_of_rejected {payload : Json} {message : String}
    (hShape : isGatewayRequest payload = true)
    (hRequest : (toRequest payload).value = .error (.badRequest message)) (d : Deployment σ H)
    (raw : Bytes) (s : σ) :
    (d.dispatch raw payload).lines s = (toRequest payload).lines ++
      (Log.info s!"Cannot dispatch the invocation: {message}").lines := by
  simp only [dispatch, requestFor_of_isGatewayRequest hShape, Effect.lines_bind,
    Effect.lines_liftM, Effect.result_liftM, hRequest]
  rfl

/-- A bad request is answered without the dispatcher, by an envelope or by an error. -/
theorem bypasses_of_rejected {d : Deployment σ H} {raw : Bytes} {payload : Json} {message : String}
    (hParse : Json.parse raw = .ok payload) (hShape : isGatewayRequest payload = true)
    (hRequest : (toRequest payload).value = .error (.badRequest message)) (given : Json) :
    d.Bypasses raw (.ok given)
      (d.answer (d.intake.messageOf raw payload given) (rejection message)).value where
  result dispatcher s := by
    rw [result_invoke_of_parse hParse, result_dispatch_of_rejected hShape hRequest]
    rfl
  lines dispatcher other s s' := by
    have hLines (dispatcher : Dispatcher σ H) (s : σ) :
        ({ d with dispatcher := dispatcher }.invoke raw (.ok given)).lines s =
          (d.intake.acceptDecoded raw (.ok given)).lines ++ ((toRequest payload).lines ++
            (Log.info s!"Cannot dispatch the invocation: {message}").lines ++
          (d.answer (d.intake.messageOf raw payload given) (rejection message)).lines) := by
      have hAccept := value_acceptDecoded_of_parse hParse { d with dispatcher := dispatcher } given
      simp only [invoke, Effect.lines_bind, Effect.lines_liftM, Effect.result_liftM, hAccept,
        Effect.lines_pure, List.append_nil, result_dispatch_of_rejected hShape hRequest,
        lines_dispatch_of_rejected hShape hRequest]
      rfl
    rw [hLines, hLines]

/-- With the flag, the encoded response is the answer even if a failure is on record. -/
theorem value_answer_of_isSet {d : Deployment σ H} {request : Message} {response : Response}
    {octets : Bytes} (hFlag : request.isSet Message.gatewayFlag = true)
    (hEncode : (Reply.encode request (some response.toMessage) .compact
      d.settings.outputType).value = .ok octets) :
    (d.answer request response).value = .ok octets := by
  have hKept : (Except.ok octets).mapError InvocationFailure.bridge = .ok octets := rfl
  simp [answer, hFlag, hEncode, hKept]

/-- Every way to be turned away is one around the dispatcher, case by case. -/
theorem bypasses_of_turnsAway {d : Deployment σ H} {raw : Bytes} {context : Except Json.Error Json}
    {answer : Except InvocationFailure Bytes} (h : d.TurnsAway raw context answer) :
    d.Bypasses raw context answer := by
  cases h with
  | context => exact bypasses_of_acceptDecoded rfl
  | payload hParse =>
      exact bypasses_of_acceptDecoded (Intake.value_acceptDecoded_of_error hParse _)
  | @responded given _ _ _ hParse hShape hRequest hGateway hEncode =>
      have hSet := (Intake.isSet_gatewayFlag_messageOf_iff (Json.ordered_of_parse hParse) d.intake
        raw given).mpr hGateway
      rw [← value_answer_of_isSet hSet hEncode]
      exact bypasses_of_rejected hParse hShape hRequest given
  | @raised given payload value message hParse hShape hRequest hBrings hFlag =>
      have hUnset : (d.intake.messageOf raw payload given).isSet Message.gatewayFlag = false := by
        rw [← Bool.not_eq_true, Intake.isSet_gatewayFlag_messageOf_iff
          (Json.ordered_of_parse hParse), Intake.fromGateway_iff hShape]
        exact fun hOnly => hFlag (hOnly value hBrings)
      rw [← value_answer_of_failure hUnset (show (rejection message).failure = some _ from rfl) d]
      exact bypasses_of_rejected hParse hShape hRequest given

/-- There is an answer that turns an invocation away exactly if there is something
to object to. -/
theorem exists_turnsAway_iff (d : Deployment σ H) (raw : Bytes)
    (context : Except Json.Error Json) :
    (∃ answer, d.TurnsAway raw context answer) ↔ IsUnfit raw context := by
  constructor
  · rintro ⟨answer, h⟩
    cases h with
    | context => exact .inl ⟨_, rfl⟩
    | payload hParse => exact .inr (.inl ⟨_, hParse⟩)
    | responded hParse hShape hRequest => exact .inr (.inr ⟨_, _, hParse, hShape, hRequest⟩)
    | raised hParse hShape hRequest => exact .inr (.inr ⟨_, _, hParse, hShape, hRequest⟩)
  · intro h
    cases context with
    | error cause => exact ⟨_, .context⟩
    | ok given =>
        rcases h with ⟨_, hContext⟩ | ⟨_, hParse⟩ | ⟨payload, _, hParse, hShape, hRequest⟩
        · cases hContext
        · exact ⟨_, .payload hParse⟩
        · obtain ⟨message, rfl⟩ := exists_badRequest hRequest
          by_cases hGateway : Intake.FromGateway payload
          · exact ⟨_, .responded hParse hShape hRequest hGateway
              (Reply.value_encode_toMessage _ (rejection message) d.settings.outputType)⟩
          · rw [Intake.fromGateway_iff hShape] at hGateway
            obtain ⟨value, hValue⟩ := Classical.not_forall.mp hGateway
            obtain ⟨hBrings, hOther⟩ := Classical.not_imp.mp hValue
            exact ⟨_, .raised hParse hShape hRequest hBrings hOther⟩

/-- A stopped dispatcher panics on every request that gets to it, and stays as it is. -/
theorem result_invoke_of_stopped {d : Deployment σ H} (hStopped : d.dispatcher = .stopped)
    {raw : Bytes} {payload : Json} (hParse : Json.parse raw = .ok payload) {request : Request}
    (hRequest : (d.requestFor raw payload).value = .ok request) (context : Json) (s : σ) :
    (d.invoke raw (.ok context)).result s = ((.error Dispatcher.usedAfterStop, d), s) := by
  obtain ⟨dispatcher, settings, catalog⟩ := d
  obtain rfl : dispatcher = .stopped := hStopped
  rw [result_invoke_of_parse hParse]
  simp [dispatch, hRequest, Dispatcher.serve, Dispatcher.engage, Except.map]

/-- What a gateway that waits for a response is told of a bad request. -/
theorem octets_of_turnsAway {d : Deployment σ H} {raw : Bytes} {context : Except Json.Error Json}
    {octets : Bytes} (h : d.TurnsAway raw context (.ok octets)) :
    (Reply.isFinalType d.settings.outputType = true → octets = []) ∧
    (Reply.isFinalType d.settings.outputType = false → ∃ payload message fields,
      Json.parse raw = .ok payload ∧ (toRequest payload).value = .error (.badRequest message) ∧
      Json.parse octets = .ok (.obj fields) ∧
      Reply.Wraps (rejection message)
        (∃ value, Intake.Brings payload Message.recordsHeader value) fields) := by
  cases h with
  | @responded given payload message _ hParse hShape hRequest hGateway hEncode =>
      have hSet := (Intake.isSet_gatewayFlag_messageOf_iff (Json.ordered_of_parse hParse) d.intake
        raw given).mpr hGateway
      have hAnswer := value_answer_of_isSet hSet hEncode
      refine ⟨fun hFinal => ?_, fun hFinal => ?_⟩
      · rw [value_answer_of_response _ _ (.inl hSet), hFinal] at hAnswer
        exact (Except.ok.inj hAnswer).symm
      · obtain ⟨_, fields, hSame, hSpells, hWraps⟩ :=
          exists_answer_wraps hFinal hSet (rejection message)
        rw [hAnswer] at hSame
        cases hSame
        exact ⟨payload, message, fields, hParse, hRequest, hSpells, hWraps⟩

/-- An invocation is turned away exactly if it is unfit, and then without the dispatcher having any
part in it. Any other one cannot but use the dispatcher, be it a stopped one. -/
theorem invoke_turnsAway (d : Deployment σ H) (raw : Bytes) (context : Except Json.Error Json) :
    ((∃ answer, d.TurnsAway raw context answer) ↔ IsUnfit raw context) ∧
    (∀ answer, d.TurnsAway raw context answer → d.Bypasses raw context answer) ∧
    (∀ octets, d.TurnsAway raw context (.ok octets) →
      (Reply.isFinalType d.settings.outputType = true → octets = []) ∧
      (Reply.isFinalType d.settings.outputType = false → ∃ payload message fields,
        Json.parse raw = .ok payload ∧ (toRequest payload).value = .error (.badRequest message) ∧
        Json.parse octets = .ok (.obj fields) ∧
        Reply.Wraps (rejection message)
          (∃ value, Intake.Brings payload Message.recordsHeader value) fields)) ∧
    (¬ IsUnfit raw context → d.dispatcher = .stopped → ∀ s,
      (d.invoke raw context).result s = ((.error Dispatcher.usedAfterStop, d), s)) := by
  refine ⟨d.exists_turnsAway_iff raw context, fun _ => bypasses_of_turnsAway,
    fun _ => octets_of_turnsAway, fun hFit hStopped s => ?_⟩
  cases context with
  | error cause => exact absurd (.inl ⟨cause, rfl⟩) hFit
  | ok given =>
      cases hParse : Json.parse raw with
      | error cause => exact absurd (.inr (.inl ⟨cause, hParse⟩)) hFit
      | ok payload =>
          cases hRequest : (d.requestFor raw payload).value with
          | ok request => exact result_invoke_of_stopped hStopped hParse hRequest given s
          | error failure =>
              -- Only a gateway request can be a bad one.
              by_cases hShape : isGatewayRequest payload = true
              · rw [requestFor_of_isGatewayRequest hShape] at hRequest
                exact absurd (.inr (.inr ⟨payload, failure, hParse, hShape, hRequest⟩)) hFit
              · simp [requestFor, hShape] at hRequest

/-- A deployment whose start panics. -/
def bursting : Deployment Unit Unit where
  dispatcher := .dormant (pure (.error (.text "no start")))
  settings := {}

/-- A request without a method that says it is from no gateway. -/
def methodless : Json :=
  .obj [("headers", .obj [(Message.gatewayFlag, .bool false)]), ("httpMethod", .null)]

theorem parse_methodless : Json.parse methodless.bytes = .ok methodless := by
  have hHeaders : (Json.obj [(Message.gatewayFlag, .bool false)]).Plain 126 :=
    .obj (List.pairwise_singleton ..) (by simp [Json.Plain.bool])
  exact Json.parse_bytes (.obj
    (Fields.sorted_of_map_fst ["headers", "httpMethod"] rfl (by decide))
    (by simp [hHeaders, Json.Plain.null]))

/-- A deployment whose dispatcher was stopped before it ever started. -/
def closed : Deployment Unit Unit := { bursting with dispatcher := .stopped }

theorem invoke_methodless :
    (bursting.invoke methodless.bytes (.ok .null)).result () =
      ((.ok (.error (.application .badRequest "The event has no HTTP method")), bursting), ()) ∧
    (closed.invoke rootRequest.bytes (.ok .null)).result () =
      ((.error Dispatcher.usedAfterStop, closed), ()) := by
  have hTurnsAway : bursting.TurnsAway methodless.bytes (.ok .null)
      (.error (.application .badRequest "The event has no HTTP method")) :=
    .raised parse_methodless rfl rfl ⟨_, rfl, rfl⟩ (by simp)
  have hFit : ¬ IsUnfit rootRequest.bytes (.ok .null) := by
    rintro (⟨_, hContext⟩ | ⟨_, hParse⟩ | ⟨_, _, hParse, -, hRequest⟩)
    · cases hContext
    · simp [parse_rootRequest] at hParse
    · rw [parse_rootRequest] at hParse
      cases hParse
      have hProper : (toRequest rootRequest).value = .ok { method := .get, path := "/" } := rfl
      simp [hProper] at hRequest
  obtain ⟨-, hBypasses, -⟩ := invoke_turnsAway bursting methodless.bytes (.ok .null)
  obtain ⟨-, -, -, hStopped⟩ := invoke_turnsAway closed rootRequest.bytes (.ok .null)
  exact ⟨(hBypasses _ hTurnsAway).result bursting.dispatcher (), hStopped hFit rfl ()⟩

end InvocationBridge.Deployment
