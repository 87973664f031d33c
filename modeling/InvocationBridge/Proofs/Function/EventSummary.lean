import InvocationBridge.Proofs.Function.EventPost
import InvocationBridge.Proofs.PetStore.RouteTable

/-!
What comes back for an event that the pet store is given.

An event with records is answered with their number, and every other event is an error. The payload
is read twice, by the bridge and by the handler, and both read the same value.
-/

namespace InvocationBridge

namespace PetStore

/-- A payload with so many records, in an array. -/
inductive HasRecords : Json → Nat → Prop where
  | array {fields : List (String × Json)} {records : List Json}
      (hRecords : Fields.get? Message.recordsHeader fields = some (.arr records)) :
      HasRecords (.obj fields) records.length

/-- The text of a summary. -/
def summaryText (kind : String) (records : Nat) : String :=
  "\x7b\"kind\":\"" ++ kind ++ "\",\"records\":" ++ toString records ++ "\x7d"

/-- The handler counts the items of `Records`, whatever these are. -/
theorem recordCount_eq_of_hasRecords {payload : Json} {n : Nat} (h : HasRecords payload n) :
    recordCount payload = n := by
  cases h with
  | array hRecords =>
      rw [recordCount, Json.field?, hRecords]
      rfl

/-- A count above zero comes from a list of records; without one the count is zero. -/
theorem hasRecords_recordCount {payload : Json} (h : recordCount payload ≠ 0) :
    HasRecords payload (recordCount payload) := by
  cases hField : payload.field? Message.recordsHeader with
  | none => simp [recordCount, hField] at h
  | some value =>
      cases value with
      | arr records =>
          cases payload with
          | obj fields =>
              have hCount : recordCount (.obj fields) = records.length := by
                rw [recordCount, hField]
                rfl
              rw [hCount]
              exact .array hField
          | _ => cases hField
      | _ => simp [recordCount, hField, Json.arr?] at h

/-- The text of a summary, written out, for a kind that needs no escapes. -/
theorem bytes_summary {kind : String} (hKind : kind.toList.flatMap Json.escapedChar = kind.toList)
    (n : Nat) :
    (Json.obj [("kind", .str kind), ("records", .ofNat n)]).bytes =
      Bytes.ofText (summaryText kind n) := by
  have hNames : Json.stringChars "kind" = "\"kind\"".toList ∧
      Json.stringChars "records" = "\"records\"".toList := by decide
  have hText : Json.stringChars kind = '"' :: kind.toList ++ ['"'] := by
    rw [Json.stringChars, hKind]
  have hNumber : (Json.ofNat n).chars = (toString n).toList := by
    rw [← Json.text_ofNat, Json.text, String.toList_ofList]
  rw [Json.bytes, Bytes.ofText]
  apply congrArg
  simp [Json.chars, Json.fieldChars, hNames, hText, hNumber, summaryText]

end PetStore

namespace Deployment

open PetStore

/-- The answer to an event of some kind: a summary if it has records, and an error otherwise. -/
structure Summarizes (kind : String) (payload : Json) (answer : Except InvocationFailure Bytes) :
    Prop where
  ok_iff : ∀ octets, answer = .ok octets ↔
    ∃ n, 1 ≤ n ∧ HasRecords payload n ∧ octets = Bytes.ofText (summaryText kind n)
  error_iff : ∀ failure, answer = .error failure ↔
    (∀ n, HasRecords payload n → n = 0) ∧
      failure = .application .notFound ("No records in the " ++ kind ++ " event")

theorem summarizes_of_records {kind : String} {payload : Json}
    (hRecords : recordCount payload ≠ 0) :
    Summarizes kind payload (.ok (Bytes.ofText (summaryText kind (recordCount payload)))) where
  ok_iff octets := by
    constructor
    · intro hAnswer
      exact ⟨_, Nat.pos_of_ne_zero hRecords, hasRecords_recordCount hRecords,
        (Except.ok.inj hAnswer).symm⟩
    · rintro ⟨n, -, hHas, rfl⟩
      rw [recordCount_eq_of_hasRecords hHas]
  error_iff failure := by
    refine iff_of_false nofun fun h => ?_
    exact hRecords (h.1 _ (hasRecords_recordCount hRecords))

/-- An event without records is answered with an error that names its kind. -/
theorem summarizes_of_no_records {kind : String} {payload : Json}
    (hRecords : recordCount payload = 0) :
    Summarizes kind payload
      (.error (.application .notFound ("No records in the " ++ kind ++ " event"))) where
  ok_iff octets := by
    refine iff_of_false nofun ?_
    rintro ⟨n, hPositive, hHas, -⟩
    rw [← recordCount_eq_of_hasRecords hHas, hRecords] at hPositive
    cases hPositive
  error_iff failure := by
    have hNone : ∀ n, HasRecords payload n → n = 0 := by
      intro n hHas
      rw [← recordCount_eq_of_hasRecords hHas, hRecords]
    rw [and_iff_right hNone, Except.error.injEq, eq_comm]

variable {d : Deployment RandomSource (RouteMatch RandomSource)} {s s₁ : RandomSource}
  {raw : Bytes} {payload : Json}

/-- No character of the name of a kind is escaped. -/
theorem flatMap_escapedChar_kindName (d : Deployment RandomSource (RouteMatch RandomSource)) :
    d.kindName.toList.flatMap Json.escapedChar = d.kindName.toList := by
  unfold kindName
  cases d.catalog.kind? d.settings.inputType with
  | none => decide
  | some kind => cases kind <;> decide

/-- With the usual event route, events are tallied. -/
theorem attempt_eventRequest (hRoute : Path.segments d.settings.eventRoute = ["events"])
    (raw : Bytes) (response : Response) :
    Dispatcher.attempt store (d.eventRequest raw) response =
      tally (d.eventRequest raw) [] response := by
  have hPosts := d.posts_eventRequest raw
  apply attempt_of_routed
  rw [hPosts.method, hPosts.path, hRoute]
  exact .tally

/-- Everything that comes of an event at the pet store, whatever its settings and its catalog are: the
number of the records in the payload, with the name of the kind that the input type stands for, or an
error that says that there are none. No other error is possible, as the payload that the handler
reads is the one that was read before. -/
theorem invoke_summarizes (hEngages : d.dispatcher.Engages s store s₁)
    (hRoute : Path.segments d.settings.eventRoute = ["events"])
    (hParse : Json.parse raw = .ok payload)
    (hShape : ¬ (payload.hasField "httpMethod" ∨
      payload.hasField "routeKey" ∧ payload.hasField "version"))
    (hFlag : ∀ headers : Fields Json, payload.field? "headers" = some (.obj headers) →
      headers.get? Message.gatewayFlag ≠ some (.bool true))
    (context : Json) :
    ∃ kind answer, d.Expects kind ∧
      (d.invoke raw (.ok context)).result s =
        ((.ok answer, { d with dispatcher := .ready store }), s₁) ∧
      Summarizes kind payload answer := by
  have hEvent : isGatewayRequest payload = false := by
    simpa [isGatewayRequest] using hShape
  have hUnset := Intake.isSet_gatewayFlag_messageOf_of_not (Json.ordered_of_parse hParse) hEvent
    hFlag d.intake raw context
  have hKind := d.header?_eventRequest raw
  -- The request bears the payload octet by octet, so the handler reads the same value.
  have hBody : Json.parse (d.eventRequest raw).body = .ok payload := hParse
  by_cases hRecords : recordCount payload = 0
  · have hTally := result_tally_of_no_records hKind hBody hRecords [] {} s₁
    rw [← attempt_eventRequest hRoute] at hTally
    refine ⟨_, _, d.expects_kindName, ?_, summarizes_of_no_records hRecords⟩
    rw [result_invoke_of_parse hParse, result_dispatch_event hEvent,
      serves_failed hEngages (Failure.isKept_notFound _) hTally]
    simp only [Except.map]
    rw [value_answer_of_failure hUnset rfl]
    rfl
  · have hTally := result_tally_of_records hKind hBody hRecords [] {} s₁
    rw [← attempt_eventRequest hRoute] at hTally
    refine ⟨_, _, d.expects_kindName, ?_, summarizes_of_records hRecords⟩
    rw [result_invoke_of_parse hParse, result_dispatch_event hEvent,
      serves_returned hEngages hTally]
    simp only [Except.map]
    rw [value_answer_of_response d _ (.inr rfl), hUnset,
      ← bytes_summary d.flatMap_escapedChar_kindName]
    simp only [Bool.not_false, Bool.or_true, if_true]
    rfl

/-- A pet store for events of a queue, with a route that has more slashes than it needs. -/
def queueStore : Deployment RandomSource (RouteMatch RandomSource) :=
  ofPetStore { eventRoute := "//events/", inputType := some "events::SqsEvent" }

/-- An event with two records, one of which is an object. -/
def queueEvent : Json := .obj [("Records", .arr [.obj [("body", .str "hi")], .null])]

theorem parse_queueEvent : Json.parse queueEvent.bytes = .ok queueEvent := by
  have hRecord : (Json.obj [("body", .str "hi")]).Plain 125 :=
    .obj (List.pairwise_singleton ..) (by simp [Json.Plain.str])
  have hRecords : (Json.arr [.obj [("body", .str "hi")], .null]).Plain 126 :=
    .arr (by simp [hRecord, Json.Plain.null])
  exact Json.parse_bytes (.obj (List.pairwise_singleton ..) (by simp [hRecords]))

theorem expects_queueStore : queueStore.Expects "queue" := by
  have hKind : queueStore.catalog.kinds.get? (TypeName.simple "events::SqsEvent") =
      some .queue := by
    rw [Intake.simple_queueType]
    rfl
  exact .registered rfl hKind

theorem invoke_queueEvent :
    ((queueStore.invoke queueEvent.bytes (.ok .null)).result freshSource).1.1 =
      .ok (.ok (Bytes.ofText "\x7b\"kind\":\"queue\",\"records\":2\x7d")) := by
  have hEngages : queueStore.dispatcher.Engages freshSource store freshSource := .launched rfl
  have hRoute : Path.segments queueStore.settings.eventRoute = ["events"] := by decide
  have hRecords : HasRecords queueEvent 2 := hasRecords_recordCount (by decide)
  have hFlag : ∀ headers : Fields Json, queueEvent.field? "headers" = some (.obj headers) →
      headers.get? Message.gatewayFlag ≠ some (.bool true) := nofun
  obtain ⟨kind, answer, hKind, hInvoke, hSummarizes⟩ :=
    invoke_summarizes hEngages hRoute parse_queueEvent (by decide) hFlag .null
  obtain rfl := hKind.unique expects_queueStore
  have hAnswer := (hSummarizes.ok_iff _).mpr ⟨2, by decide, hRecords, rfl⟩
  rw [hInvoke, hAnswer]
  rfl

end Deployment

end InvocationBridge
