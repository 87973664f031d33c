import InvocationBridge.Message.Intake
import InvocationBridge.Proofs.Json.Ordered

/-!
What the message for a payload says about where it came from.
-/

namespace InvocationBridge.Intake

/-- The message for a decoded payload. -/
def messageOf (intake : Intake) (raw : Bytes) (payload context : Json) : Message :=
  ⟨.raw raw, (callerHeaders payload).insertAll (intake.markers payload (some context))⟩

/-- The headers of a payload are those of the object that it holds under that name. -/
theorem contains_callerHeaders_iff (fields : Fields Json) (name : String) :
    (callerHeaders (.obj fields)).contains name ↔
      ∃ headers : Fields Json, fields.get? "headers" = some (.obj headers) ∧
        headers.contains name := by
  have hField : (Json.obj fields).field? "headers" = fields.get? "headers" := rfl
  rw [callerHeaders, hField]
  cases hGet : fields.get? "headers" with
  | none => simp [Fields.contains, Fields.get?]
  | some value => cases value <;> simp [Fields.contains, Fields.get?, Json.obj?]

theorem value_acceptDecoded_of_error {intake : Intake} {raw : Bytes} {error : Json.Error}
    (h : intake.codec.decode raw = .error error) (context : Json) :
    (intake.acceptDecoded raw (.ok context)).value = .error (.notDecoded error) := by
  simp [acceptDecoded, take, h]

/-- A payload that can be decoded is taken in with its markers, and handed on
beside the message. -/
theorem value_acceptDecoded_of_ok {intake : Intake} {raw : Bytes} {payload : Json}
    (h : intake.codec.decode raw = .ok payload) (context : Json) :
    (intake.acceptDecoded raw (.ok context)).value =
      .ok (intake.messageOf raw payload context, payload) := by
  simp [acceptDecoded, take, h, messageOf]

/-- The message for a payload takes no more from it than its headers and its shape. -/
theorem headers_messageOf_congr {payload decoded : Json}
    (hHeaders : decoded.field? "headers" = payload.field? "headers")
    (hShape : isGatewayRequest decoded = isGatewayRequest payload) (intake : Intake)
    (raw other : Bytes) (context : Json) :
    (intake.messageOf other decoded context).headers =
      (intake.messageOf raw payload context).headers := by
  simp only [messageOf, callerHeaders, markers, hHeaders, hShape]

/-- The markers one by one. No other header is set by the bridge. -/
theorem get?_markers (intake : Intake) (payload : Json) (context : Option Json) (name : String) :
    (intake.markers payload context).get? name =
      if name = Message.contextHeader then context
      else if name = Message.eventFlag then
        if !intake.producer && (intake.catalog.kind? intake.declared).isSome then
          some (.bool true)
        else none
      else if name = Message.gatewayFlag then
        if isGatewayRequest payload then some (.bool true) else none
      else none := by
  have hEvent : Message.contextHeader ≠ Message.eventFlag := by decide
  have hGateway : Message.contextHeader ≠ Message.gatewayFlag := by decide
  have hFlags : Message.eventFlag ≠ Message.gatewayFlag := by decide
  unfold markers
  cases isGatewayRequest payload <;>
    cases !intake.producer && (intake.catalog.kind? intake.declared).isSome <;>
    cases context <;>
    simp [Fields.ofList, Fields.insertAll, Fields.get?_insert, Fields.get?] <;> grind

theorem get?_gatewayFlag_markers (intake : Intake) (payload : Json) (context : Option Json) :
    (intake.markers payload context).get? Message.gatewayFlag =
      if isGatewayRequest payload then some (.bool true) else none := by
  rw [get?_markers, if_neg (by decide), if_neg (by decide), if_pos rfl]

/-- A payload that does not set the flag itself has it by its shape. -/
theorem isSet_gatewayFlag_messageOf {payload : Json}
    (h : (callerHeaders payload).get? Message.gatewayFlag = none) (intake : Intake) (raw : Bytes)
    (context : Json) :
    (intake.messageOf raw payload context).isSet Message.gatewayFlag =
      isGatewayRequest payload := by
  simp only [Message.isSet, Message.header?, messageOf, Fields.get?_insertAll_of_get?_eq_none h,
    get?_gatewayFlag_markers]
  cases isGatewayRequest payload <;> rfl

/-- Gateway requests are told by the names of their fields alone, in either format. -/
theorem isGatewayRequest_obj_iff (fields : Fields Json) :
    isGatewayRequest (.obj fields) ↔
      fields.contains "httpMethod" ∨ fields.contains "routeKey" ∧ fields.contains "version" := by
  simp only [isGatewayRequest, Bool.or_eq_true, Bool.and_eq_true]
  exact Iff.rfl

/-- A gateway request is flagged as one, unless its own headers speak about the flag. -/
theorem isSet_gatewayFlag_messageOf_obj {fields : Fields Json}
    (hGateway : isGatewayRequest (.obj fields))
    (hFlag : ∀ headers : Fields Json, fields.get? "headers" = some (.obj headers) →
      headers.contains Message.gatewayFlag = false) (intake : Intake) (raw : Bytes)
    (context : Json) :
    (intake.messageOf raw (.obj fields) context).isSet Message.gatewayFlag = true := by
  have hUnset : (callerHeaders (.obj fields)).get? Message.gatewayFlag = none := by
    rw [← Option.not_isSome_iff_eq_none]
    intro hSet
    obtain ⟨headers, hHeaders, hContains⟩ := (contains_callerHeaders_iff ..).mp hSet
    rw [hFlag headers hHeaders] at hContains
    cases hContains
  exact (isSet_gatewayFlag_messageOf hUnset ..).trans hGateway

theorem callerHeaders_cases (payload : Json) :
    callerHeaders payload = [] ∨ ∃ headers : Fields Json,
      payload.field? "headers" = some (.obj headers) ∧ callerHeaders payload = headers := by
  unfold callerHeaders
  cases hField : payload.field? "headers" with
  | none => exact .inl rfl
  | some value =>
      cases value with
      | obj headers => exact .inr ⟨headers, rfl, rfl⟩
      | _ => exact .inl rfl

/-- The headers of an ordered payload are in order, and so is the empty table of
one without any. -/
theorem sorted_callerHeaders {payload : Json} (h : payload.Ordered) :
    (callerHeaders payload).Sorted := by
  rcases callerHeaders_cases payload with hNone | ⟨headers, hField, hHeaders⟩
  · rw [hNone]
    exact List.Pairwise.nil
  · rw [hHeaders]
    cases h with
    | obj _ hValues =>
        cases hValues _ (Fields.mem_of_get? hField) with
        | obj hSorted => exact hSorted
    | _ => cases hField

/-- A payload of another shape carries the flag only if it sets it itself. -/
theorem isSet_gatewayFlag_messageOf_of_not {payload : Json} (hOrdered : payload.Ordered)
    (hEvent : isGatewayRequest payload = false)
    (hFlag : ∀ headers : Fields Json, payload.field? "headers" = some (.obj headers) →
      headers.get? Message.gatewayFlag ≠ some (.bool true)) (intake : Intake) (raw : Bytes)
    (context : Json) :
    (intake.messageOf raw payload context).isSet Message.gatewayFlag = false := by
  have hHeader : (intake.messageOf raw payload context).header? Message.gatewayFlag =
      (callerHeaders payload).get? Message.gatewayFlag := by
    rw [Message.header?, messageOf, Fields.get?_insertAll (sorted_callerHeaders hOrdered),
      get?_gatewayFlag_markers, hEvent]
    exact Option.or_none
  have hUnset : (callerHeaders payload).get? Message.gatewayFlag ≠ some (.bool true) := by
    rcases callerHeaders_cases payload with hNone | ⟨headers, hField, hHeaders⟩
    · rw [hNone]
      exact nofun
    · rw [hHeaders]
      exact hFlag headers hField
  rw [Message.isSet, hHeader]
  split
  · next hSet => exact absurd hSet hUnset
  · rfl

/-- The bridge never marks records itself: that header only comes from a payload. -/
theorem contains_recordsHeader_markers (intake : Intake) (payload : Json) (context : Option Json) :
    (intake.markers payload context).contains Message.recordsHeader = false := by
  rw [Fields.contains, get?_markers, if_neg (by decide), if_neg (by decide), if_neg (by decide),
    Option.isSome_none]

/-- Only the payload can ask for the meaning of the status. -/
theorem hasHeader_recordsHeader_messageOf (intake : Intake) (raw : Bytes) (payload context : Json) :
    (intake.messageOf raw payload context).hasHeader Message.recordsHeader =
      (callerHeaders payload).contains Message.recordsHeader := by
  have hContains := Fields.contains_insertAll Message.recordsHeader (callerHeaders payload)
    (intake.markers payload (some context))
  rwa [contains_recordsHeader_markers, Bool.or_false] at hContains

end InvocationBridge.Intake
