import InvocationBridge.Proofs.Function.TurnedAway
import InvocationBridge.Proofs.PetStore.Outcomes

/-!
The outcomes of invocations of the pet store.

`Confined` lists what there is to expect of an answer. No invocation panics, and each leaves the pet
store ready for the next, so that the answers of a whole run are confined.
-/

namespace InvocationBridge.Deployment

open PetStore

/-- The outcomes of an invocation: a payload that is no JSON is the only thing that the bridge
refuses, and other failures have one of four codes, whether they are errors or told in an
envelope. -/
structure Confined (settings : Settings) (raw : Bytes) (answer : Except InvocationFailure Bytes) :
    Prop where
  bridge : ∀ error, answer = .error (.bridge error) ↔
    ∃ cause, Json.parse raw = .error cause ∧ error = .notDecoded cause
  application : ∀ status message, answer = .error (.application status message) →
    ∃ payload, Json.parse raw = .ok payload ∧ ¬Intake.FromGateway payload ∧
      status.code ∈ [400, 403, 404, 500]
  envelope : ∀ payload, Json.parse raw = .ok payload → Intake.FromGateway payload →
    (∀ name, settings.outputType = some name → TypeName.simple name ∉ Reply.finalTypes) →
    ∃ (octets : Bytes) (fields : Fields Json) (code : Nat), answer = .ok octets ∧
      Json.parse octets = .ok (.obj fields) ∧
      fields.get? "statusCode" = some (.ofNat code) ∧ code ∈ [200, 400, 403, 404, 500]

variable {d : Deployment RandomSource (RouteMatch RandomSource)}

/-- An error of the bridge is confined if it is about the payload. -/
theorem confined_of_not_decoded {raw : Bytes} {cause : Json.Error}
    (hParse : Json.parse raw = .error cause) (settings : Settings) :
    Confined settings raw (.error (.bridge (.notDecoded cause))) where
  bridge error := by
    simp [hParse, eq_comm]
  application _ _ h := by cases h
  envelope payload h := by
    rw [hParse] at h
    cases h

/-- Once there is a response, the bridge itself has nothing to object to. -/
theorem value_answer_ne_bridge (request : Message) (response : Response) (error : MessageError) :
    (d.answer request response).value ≠ .error (.bridge error) := by
  cases hFlag : request.isSet Message.gatewayFlag with
  | true =>
      rw [value_answer_of_response d response (.inl hFlag)]
      exact nofun
  | false =>
      cases hFailure : response.failure with
      | none =>
          rw [value_answer_of_response d response (.inr hFailure)]
          exact nofun
      | some record =>
          rw [value_answer_of_failure hFlag hFailure]
          exact nofun

/-- The answer for a response with one of the codes is confined. -/
theorem confined_answer {raw : Bytes} {payload : Json} (hParse : Json.parse raw = .ok payload)
    {response : Response} (hEnds : response.EndsIn [400, 403, 404, 500]) (context : Json) :
    Confined d.settings raw (d.answer (d.intake.messageOf raw payload context) response).value := by
  have hFlag := Intake.isSet_gatewayFlag_messageOf_iff (Json.ordered_of_parse hParse) d.intake raw
    context
  refine ⟨?_, ?_, ?_⟩
  · intro error
    refine iff_of_false (value_answer_ne_bridge _ _ error) ?_
    intro ⟨cause, hNone, _⟩
    cases hParse.symm.trans hNone
  · intro status message hAnswer
    refine ⟨payload, hParse, ?_, ?_⟩
    · intro hGateway
      rw [value_answer_of_response _ _ (.inl (hFlag.mpr hGateway))] at hAnswer
      cases hAnswer
    · cases hEnds with
      | well hFailure =>
          rw [value_answer_of_response _ _ (.inr hFailure)] at hAnswer
          cases hAnswer
      | badly hFailure hStatus =>
          cases hSet : (d.intake.messageOf raw payload context).isSet Message.gatewayFlag with
          | true =>
              rw [value_answer_of_response _ _ (.inl hSet)] at hAnswer
              cases hAnswer
          | false =>
              rw [value_answer_of_failure hSet hFailure] at hAnswer
              cases hAnswer
              exact hStatus
  · intro decoded hDecoded hGateway hType
    cases hParse.symm.trans hDecoded
    obtain ⟨octets, fields, hAnswer, hSpells, hWraps⟩ :=
      exists_answer_wraps (isFinalType_eq_false hType) (hFlag.mpr hGateway) response
    exact ⟨octets, fields, response.status.code, hAnswer, hSpells, hWraps.status, hEnds.code_mem⟩

/-- What a dispatch leaves: a response with one of the codes, and the pet store ready for more. -/
theorem outcome_of_dispatch (hOffers : d.dispatcher.Offers store) {raw : Bytes} {payload : Json}
    {s s' : RandomSource} {served : Dispatcher.Served RandomSource (RouteMatch RandomSource)}
    (h : (d.dispatch raw payload).result s = (served, s')) :
    served.ending = .ok () ∧ served.response.EndsIn [400, 403, 404, 500] ∧
      served.dispatcher.Offers store := by
  cases hRequest : (d.requestFor raw payload).value with
  | error failure =>
      cases hShape : isGatewayRequest payload with
      | false => simp [requestFor, hShape] at hRequest
      | true =>
          rw [requestFor_of_isGatewayRequest hShape] at hRequest
          obtain ⟨message, hFailure⟩ := GatewayEvent.exists_badRequest hRequest
          subst hFailure
          rw [result_dispatch_of_rejected hShape hRequest] at h
          cases h
          exact ⟨rfl, .badly rfl List.mem_cons_self, hOffers⟩
  | ok request =>
      have hServe : (d.dispatcher.serve request {}).result s = (served, s') := by
        rw [← h]
        simp [dispatch, hRequest]
      have hServes := (Dispatcher.result_serve_iff ..).mp hServe
      have hEnding := (hOffers.hosts.isCalm isCalm_store hOffers.inUse).ending_serve request {} s
      rw [hServe] at hEnding
      exact ⟨hEnding, (endsIn_of_serves hOffers hServes).mono (by simp), hOffers.serves hServes⟩

/-- One invocation: its answer is confined, and the pet store stays ready for the next one. -/
theorem exists_confined (hOffers : d.dispatcher.Offers store) (raw : Bytes) (context : Json)
    (s : RandomSource) :
    ∃ answer dispatcher s', (d.invoke raw (.ok context)).result s =
        ((.ok answer, { d with dispatcher := dispatcher }), s') ∧
      Confined d.settings raw answer ∧ dispatcher.Offers store := by
  cases hParse : Json.parse raw with
  | error cause =>
      have hRefuse : (d.intake.acceptDecoded raw (.ok context)).value =
          .error (.notDecoded cause) := Intake.value_acceptDecoded_of_error hParse context
      exact ⟨_, d.dispatcher, s, (bypasses_of_acceptDecoded hRefuse).result d.dispatcher s,
        confined_of_not_decoded hParse d.settings, hOffers⟩
  | ok payload =>
      obtain ⟨served, s', hDispatch⟩ :
          ∃ served s', (d.dispatch raw payload).result s = (served, s') := ⟨_, _, rfl⟩
      obtain ⟨hEnding, hEnds, hAfter⟩ := outcome_of_dispatch hOffers hDispatch
      refine ⟨_, served.dispatcher, s', ?_, confined_answer hParse hEnds context, hAfter⟩
      rw [result_invoke_of_parse hParse, hDispatch]
      simp only [hEnding]
      rfl

/-- No invocation of the pet store panics, whatever its settings and the payload are, and the
outcomes are confined: payloads that are no JSON are refused, and only these, errors of the
application are for callers that are no gateway, and all statuses are among five. Nor does anything
panic on the way: what the code takes for granted is so. -/
theorem invoke_confined (hOffers : d.dispatcher.Offers store) (raw : Bytes) (context : Json)
    (s : RandomSource) :
    (∃ answer dispatcher s', (d.invoke raw (.ok context)).result s =
        ((.ok answer, { d with dispatcher := dispatcher }), s') ∧
      Confined d.settings raw answer ∧ dispatcher.Offers store) ∧
    IsSound ∧ d.kindValue.text? = some d.kindName :=
  ⟨exists_confined hOffers raw context s, isSound, d.text?_kindValue⟩

theorem offers_ofPetStore (settings : Settings) : (ofPetStore settings).dispatcher.Offers store :=
  ⟨hosts_ofPetStore settings, nofun⟩

/-- Nothing is at the root of the pet store, so the envelope for a gateway has one of the codes. -/
theorem invoke_rootRequest : ∃ (octets : Bytes) (fields : Fields Json) (code : Nat)
    (after : Deployment RandomSource (RouteMatch RandomSource)) (s' : RandomSource),
    ((ofPetStore {}).invoke rootRequest.bytes (.ok .null)).result freshSource =
      ((.ok (.ok octets), after), s') ∧
    Json.parse octets = .ok (.obj fields) ∧ fields.get? "statusCode" = some (.ofNat code) ∧
    code ∈ [200, 400, 403, 404, 500] := by
  obtain ⟨⟨answer, dispatcher, s', hInvoke, hConfined, -⟩, -⟩ :=
    invoke_confined (offers_ofPetStore {}) rootRequest.bytes .null freshSource
  obtain ⟨octets, fields, code, hAnswer, hSpells, hCode⟩ :=
    hConfined.envelope rootRequest parse_rootRequest (.inr ⟨rfl, nofun⟩) nofun
  subst hAnswer
  exact ⟨octets, fields, code, _, s', hInvoke, hSpells, hCode⟩

/-- Invocations one after the other, each in its context. -/
def invokeAll {σ H : Type} (d : Deployment σ H) : List (Bytes × Json) →
    Effect σ (List (Except Panic (Except InvocationFailure Bytes)) × Deployment σ H)
  | [] => return ([], d)
  | (raw, context) :: calls => do
    let (answer, d) ← d.invoke raw (.ok context)
    let (answers, d) ← d.invokeAll calls
    return (answer :: answers, d)

/-- The answers of a whole run are confined, and the pet store is ready for more after it. -/
theorem exists_confined_invokeAll (hOffers : d.dispatcher.Offers store)
    (calls : List (Bytes × Json)) (s : RandomSource) :
    ∃ answers dispatcher s', (d.invokeAll calls).result s =
        ((answers.map .ok, { d with dispatcher := dispatcher }), s') ∧
      answers.length = calls.length ∧
      (∀ pair ∈ calls.zip answers, Confined d.settings pair.1.1 pair.2) ∧
      dispatcher.Offers store := by
  induction calls generalizing d s with
  | nil => exact ⟨[], d.dispatcher, s, rfl, rfl, nofun, hOffers⟩
  | cons call calls ih =>
      obtain ⟨raw, context⟩ := call
      obtain ⟨answer, dispatcher, s₁, hInvoke, hConfined, hAfter⟩ :=
        exists_confined hOffers raw context s
      obtain ⟨answers, last, s', hRest, hLength, hAll, hLast⟩ :=
        ih (d := { d with dispatcher := dispatcher }) hAfter s₁
      refine ⟨answer :: answers, last, s', ?_, congrArg (· + 1) hLength, ?_, hLast⟩
      · simp only [invokeAll, Effect.result_bind, hInvoke, hRest, Effect.result_pure, List.map_cons]
      · exact List.forall_mem_cons.mpr ⟨hConfined, hAll⟩

end InvocationBridge.Deployment
