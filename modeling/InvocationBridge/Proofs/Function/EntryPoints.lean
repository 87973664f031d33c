import InvocationBridge.Proofs.Function.SameAnswer
import InvocationBridge.Proofs.Json.RoundTrip
import InvocationBridge.Proofs.PetStore.Events

/-!
The two ways into a deployment of the pet store.

`invoke` takes a text and gives octets, and `respond` takes a value and gives one, for which it
writes the value and reads the octets. For values of integers both come to the same.
-/

namespace InvocationBridge

/-- A dispatcher of one application: whenever a request gets that far, it runs this one. -/
def Dispatcher.Hosts {σ H : Type} (d : Dispatcher σ H) (app : Application σ H) : Prop :=
  ∀ s started s₁, d.Engages s started s₁ → started = app

/-- A dispatcher in use is calm if its application is, whether that was started or not. -/
theorem Dispatcher.Hosts.isCalm {σ H : Type} {d : Dispatcher σ H} {app : Application σ H}
    (h : d.Hosts app) (hCalm : app.IsCalm) (hInUse : d ≠ stopped) : d.IsCalm where
  inUse := hInUse
  application s started s₁ hEngages := by
    rw [h s started s₁ hEngages]
    exact hCalm

namespace Deployment

/-- The entry point for values goes through octets on the way in, and reads them
on the way out. -/
theorem result_respond {σ H : Type} (d : Deployment σ H) (payload : Json)
    (context : InvocationContext) (s : σ) :
    (d.respond payload context).result s =
      let ((result, after), s') := (d.invoke payload.bytes (.ok context.toJson)).result s
      ((result.map fun answer => answer.map valueOf, after), s') := rfl

variable {d : Deployment RandomSource (RouteMatch RandomSource)}

/-- The pet store does not see how an event was spelled. -/
theorem result_dispatch_of_hosts (hHosts : d.dispatcher.Hosts PetStore.store)
    (hRoute : d.settings.eventRoute = ({} : Settings).eventRoute) {raw other : Bytes}
    {payload : Json} (hParse : Json.parse raw = .ok payload)
    (hOther : Json.parse other = .ok payload) (s : RandomSource) :
    (d.dispatch other payload).result s = (d.dispatch raw payload).result s := by
  cases hShape : isGatewayRequest payload with
  | true => exact result_dispatch_of_isGatewayRequest hShape d raw other s
  | false =>
      have hRespells : PetStore.Respells (d.eventRequest raw) (d.eventRequest other) :=
        ⟨rfl, rfl, rfl, hOther.trans hParse.symm⟩
      rw [result_dispatch_event hShape, result_dispatch_event hShape]
      apply Dispatcher.result_serve_congr
      intro app s₁ hEngages
      obtain rfl := hHosts s app s₁ hEngages
      exact hRespells.run_eq rfl hRoute {}

/-- Both ways in come to the same for a value of integers, in whatever contexts: the same panic, an
error with the same text, or the value that stands for the octets. A gateway whose output type is not
final gets the envelope itself for a value. -/
theorem respond_agrees (hHosts : d.dispatcher.Hosts PetStore.store)
    (hRoute : d.settings.eventRoute = ({} : Settings).eventRoute) {raw : Bytes} {payload : Json}
    (hParse : Json.parse raw = .ok payload) (hIntegral : payload.Integral)
    (context : InvocationContext) (given : Json) (s : RandomSource) :
    (d.respond payload context).result s =
      (let ((result, after), s') := (d.invoke raw (.ok given)).result s
      ((result.map fun answer => answer.map valueOf, after), s')) ∧
    (d.dispatcher ≠ .stopped →
      (∀ name, d.settings.outputType = some name → TypeName.simple name ∉ Reply.finalTypes) →
      Intake.FromGateway payload → ∃ served s' fields,
        (d.dispatch raw payload).result s = (served, s') ∧
        (d.respond payload context).result s =
          ((.ok (.ok (.obj fields)), { d with dispatcher := served.dispatcher }), s') ∧
        Reply.Wraps served.response
          (∃ value, Intake.Brings payload Message.recordsHeader value) fields) := by
  -- What is written for the payload is another text of it, so these are two runs of one payload.
  have hWritten := Json.parse_bytes_of_parse hParse hIntegral
  have hDispatch := result_dispatch_of_hosts hHosts hRoute hParse hWritten s
  have hInvoke := result_invoke_of_same_payload hParse hWritten hDispatch given context.toJson
  have hAgree := d.result_respond payload context s
  rw [hInvoke] at hAgree
  refine ⟨hAgree, fun hInUse hType hGateway => ?_⟩
  obtain ⟨served, s', hServed⟩ :
      ∃ served s', (d.dispatch raw payload).result s = (served, s') := ⟨_, _, rfl⟩
  have hEnding : served.ending = .ok () := by
    have h := ending_dispatch (hHosts.isCalm PetStore.isCalm_store hInUse) raw payload s
    rwa [hServed] at h
  have hFlag := (Intake.isSet_gatewayFlag_messageOf_iff (Json.ordered_of_parse hParse) d.intake raw
    given).mpr hGateway
  obtain ⟨octets, fields, hAnswer, hSpells, hWraps⟩ :=
    exists_answer_wraps (isFinalType_eq_false hType) hFlag served.response
  have hValue : valueOf octets = .obj fields := by
    rw [valueOf, hSpells]
  refine ⟨served, s', fields, hServed, ?_, hWraps⟩
  rw [hAgree, result_invoke_of_parse hParse, hServed]
  simp only [hEnding, Except.map, hAnswer, hValue]

theorem hosts_ofPetStore (settings : Settings) :
    (ofPetStore settings).dispatcher.Hosts PetStore.store := by
  intro s started s₁ hEngages
  cases hEngages with
  | launched hLaunch =>
      cases hLaunch
      rfl

/-- An event with two records that wants a response as gateways get it. -/
def answeredEvent : Json :=
  .obj [("Records", .arr [.ofNat 1, .ofInt (-2)]),
    ("headers", .obj [(Message.gatewayFlag, .bool true)])]

/-- The same event with its fields out of order, the records twice. -/
def hastyEvent : Json :=
  .obj [("headers", .obj [(Message.gatewayFlag, .bool true)]), ("Records", .null),
    ("Records", .arr [.ofNat 1, .ofInt (-2)])]

theorem parse_hastyEvent : Json.parse hastyEvent.bytes = .ok answeredEvent := by
  have hOne : (Json.ofNat 1).Plain 125 := .int (by decide) (by decide)
  have hTwo : (Json.ofInt (-2)).Plain 125 := .int (by decide) (by decide)
  have hRecords : (Json.arr [.ofNat 1, .ofInt (-2)]).Plain 126 := .arr (by simp [hOne, hTwo])
  have hHeaders : (Json.obj [(Message.gatewayFlag, .bool true)]).Plain 126 :=
    .obj (List.pairwise_singleton ..) (by simp [Json.Plain.bool])
  exact Json.parse_bytes_obj (by simp [hRecords, hHeaders, Json.Plain.null])

theorem integral_answeredEvent : answeredEvent.Integral := by
  have hRecords : (Json.arr [.ofNat 1, .ofInt (-2)]).Integral :=
    .arr (by simp [Json.ofNat, Json.ofInt, Json.Integral.int])
  have hHeaders : (Json.obj [(Message.gatewayFlag, .bool true)]).Integral :=
    .obj (by simp [Json.Integral.bool])
  exact .obj (by simp [hRecords, hHeaders])

theorem result_dispatch_hastyEvent (s : RandomSource) :
    ((ofPetStore {}).dispatch hastyEvent.bytes answeredEvent).result s =
      (⟨.ok (), PetStore.summarized "unknown" 2 {}, .ready PetStore.store⟩, s) := by
  have hShape : isGatewayRequest answeredEvent = false := rfl
  have hKind := (ofPetStore {}).header?_eventRequest hastyEvent.bytes
  have hAttempts := PetStore.attempts_event rfl rfl hKind parse_hastyEvent (by decide) {} s
  rw [result_dispatch_event hShape]
  exact (Dispatcher.result_serve_iff ..).mpr (.ran (.launched rfl) (.answered hAttempts))

/-- A supply of random octets that nothing was drawn from. -/
def freshSource : RandomSource where
  octet _ := 0
  drawn := 0

theorem respond_answeredEvent : ∃ fields : Fields Json,
    ((ofPetStore {}).respond answeredEvent {}).result freshSource =
      ((.ok (.ok (.obj fields)), { ofPetStore {} with dispatcher := .ready PetStore.store }),
        freshSource) ∧
    fields.get? "statusCode" = some (.ofNat 200) ∧
    fields.get? "body" = some (.str "\x7b\"kind\":\"unknown\",\"records\":2\x7d") := by
  obtain ⟨-, hGateway⟩ := respond_agrees (hosts_ofPetStore {}) rfl parse_hastyEvent
    integral_answeredEvent {} .null freshSource
  obtain ⟨served, s', fields, hServed, hRespond, hWraps⟩ := hGateway (by simp [ofPetStore])
    (by simp [ofPetStore]) (.inl ⟨_, rfl, rfl⟩)
  rw [result_dispatch_hastyEvent] at hServed
  cases hServed
  exact ⟨fields, hRespond, hWraps.status, hWraps.body_ofText _ rfl⟩

end Deployment

end InvocationBridge
