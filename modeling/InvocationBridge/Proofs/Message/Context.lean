import InvocationBridge.Proofs.Json.Value
import InvocationBridge.Proofs.Message.Markers

/-!
The context of an invocation on its way through a message.

A context is read back from the value that was made of it, with every field. On the message for a
payload it stands behind whatever the payload itself brings under the name.
-/

namespace InvocationBridge

namespace InvocationContext

theorem wordOf_ofNat (n : UInt64) : wordOf (.ofNat n.toNat) = .ok n := by
  have hWord : (Int.ofNat n.toNat).toNat.toUInt64 = n := UInt64.ofNat_toNat
  rw [Json.ofNat, Json.ofInt, wordOf, if_pos (Int.natCast_nonneg _)]
  exact congrArg Except.ok hWord

/-- The fields of a context in the order of their names, in which they are read. -/
theorem toJson_eq (c : InvocationContext) : c.toJson = .obj
    ([("deadline", .ofNat c.deadline.toNat), ("invokedFunctionArn", .str c.invokedFunctionArn),
      ("requestId", .str c.requestId)] ++
      match c.xrayTraceId with
      | some trace => [("xrayTraceId", .str trace)]
      | none => []) := by
  cases hTrace : c.xrayTraceId with
  | none =>
      rw [toJson, fields, hTrace]
      rfl
  | some trace =>
      rw [toJson, fields, hTrace]
      rfl

/-- Reading what was written for a context gives the context back, with its absent
fields absent. -/
theorem ofJson_toJson (c : InvocationContext) : ofJson c.toJson = .ok c := by
  obtain ⟨requestId, invokedFunctionArn, deadline, trace⟩ := c
  rw [toJson_eq]
  cases trace with
  | none =>
      simp [ofJson, ofFields, Draft.add, textOf, wordOf_ofNat, required, Except.map, bind,
        Except.bind, pure, Except.pure]
  | some trace =>
      simp [ofJson, ofFields, Draft.add, textOf, optionalTextOf, wordOf_ofNat, required, Except.map,
        bind, Except.bind, pure, Except.pure]

/-- The fields are words and strings, hence plain at any depth. -/
theorem plain_of_mem_fields {c : InvocationContext} {field : String × Json} (h : field ∈ c.fields)
    (depth : Nat) : field.2.Plain depth := by
  have hDeadline : (Json.ofNat c.deadline.toNat).Plain depth := by
    have hWord := c.deadline.toNat_lt
    exact .int (by omega) (by omega)
  rw [fields, List.mem_append] at h
  rcases h with hAlways | hTrace
  · simp only [List.mem_cons, List.not_mem_nil, or_false] at hAlways
    rcases hAlways with rfl | rfl | rfl
    · exact .str _
    · exact .str _
    · exact hDeadline
  · split at hTrace
    · obtain rfl := List.mem_singleton.mp hTrace
      exact .str _
    · cases hTrace

/-- A context can be written and read, so that it survives as a header. -/
theorem plain_toJson (c : InvocationContext) (depth : Nat) : c.toJson.Plain (depth + 1) :=
  Json.Plain.insertAll (.obj .nil nofun) fun _ hField => plain_of_mem_fields hField depth

end InvocationContext

namespace Message

/-- A header under the name of the context is read as one, and may turn out not to be. -/
theorem context?_of_header?_eq_some {m : Message} {value : Json}
    (h : m.header? contextHeader = some value) :
    m.context? = (InvocationContext.ofJson value).map some := by
  rw [context?, h]

theorem context?_of_header?_eq_none {m : Message} (h : m.header? contextHeader = none) :
    m.context? = .ok none := by
  rw [context?, h]

end Message

namespace Intake

section Tagged

variable {intake : Intake} {raw : Bytes} {payload : Json} {context : Option Json}
  {message : Message}

/-- What the payload brings is read, and the context that was given does not count. -/
theorem Tags.context?_of_brings (h : intake.Tags raw payload context message) {value : Json}
    (hBrings : Brings payload Message.contextHeader value) :
    message.context? = (InvocationContext.ofJson value).map some :=
  Message.context?_of_header?_eq_some ((h.header_iff ..).mpr (.inl hBrings))

/-- Unless the payload brings a header of that name itself, the context stands on the message as
it was given. -/
theorem Tags.header?_contextHeader (h : intake.Tags raw payload context message)
    (hSilent : ∀ value, ¬Brings payload Message.contextHeader value) :
    message.header? Message.contextHeader = context := by
  have hMarks (value : Json) :
      intake.Marks payload context Message.contextHeader value ↔ context = some value := by
    rw [← get?_markers_eq_some_iff, get?_markers, if_pos rfl]
  apply Option.ext
  intro value
  rw [h.header_iff, hMarks]
  constructor
  · rintro (hBrings | ⟨-, hContext⟩)
    · exact absurd hBrings (hSilent value)
    · exact hContext
  · intro hContext
    exact .inr ⟨hSilent, hContext⟩

end Tagged

/-- A context that was given with a payload is read from the message again, field by field, and none
is read if none was given. But if the payload brings something under the name itself, that is read
in either case. -/
theorem accept_keeps_context {intake : Intake} (hCodec : intake.codec.IsOrdered) {raw : Bytes}
    {payload : Json} (hDecode : intake.codec.decode raw = .ok payload)
    (context : InvocationContext) :
    ∃ plain message, (intake.accept raw).value = .ok plain ∧
      (intake.acceptInContext raw (.ok context.toJson)).value = .ok message ∧
      (intake.acceptDecoded raw (.ok context.toJson)).value = .ok (message, payload) ∧
      ((∀ value, ¬Brings payload Message.contextHeader value) →
        plain.context? = .ok none ∧ message.context? = .ok (some context)) ∧
      ∀ value, Brings payload Message.contextHeader value →
        plain.context? = (InvocationContext.ofJson value).map some ∧
          message.context? = (InvocationContext.ofJson value).map some := by
  have hTaken (given : Option Json) : ∃ message,
      (intake.take raw given).value = .ok (message, payload) ∧
        intake.Tags raw payload given message := by
    cases hTake : (intake.take raw given).value with
    | error error =>
        obtain ⟨cause, hFails, -⟩ := (value_take_eq_error_iff ..).mp hTake
        cases hDecode.symm.trans hFails
    | ok taken =>
        obtain ⟨hDecoded, hTags⟩ := tags_of_value_take hCodec hTake
        cases hDecode.symm.trans hDecoded
        exact ⟨taken.1, rfl, hTags⟩
  obtain ⟨plain, hPlain, hPlainTags⟩ := hTaken none
  obtain ⟨message, hMessage, hTags⟩ := hTaken (some context.toJson)
  refine ⟨plain, message, map_eq_ok_iff.mpr ⟨_, hPlain, rfl⟩, map_eq_ok_iff.mpr ⟨_, hMessage, rfl⟩,
    hMessage, ?_, ?_⟩
  · intro hSilent
    refine ⟨Message.context?_of_header?_eq_none (hPlainTags.header?_contextHeader hSilent), ?_⟩
    rw [Message.context?_of_header?_eq_some (hTags.header?_contextHeader hSilent),
      InvocationContext.ofJson_toJson]
    rfl
  · intro value hBrings
    exact ⟨hPlainTags.context?_of_brings hBrings, hTags.context?_of_brings hBrings⟩

/-- A context with the largest deadline and a trace that is empty. -/
def tracedContext : InvocationContext where
  requestId := "r-1"
  deadline := 18446744073709551615
  xrayTraceId := some ""

/-- A context that an event makes up. -/
def forgedContext : InvocationContext := { requestId := "\"r-2\"" }

/-- An event with a context of its own among its headers. -/
def forgedEvent : Json :=
  .obj [("headers", .obj [(Message.contextHeader, forgedContext.toJson)])]

theorem parse_forgedEvent : Json.parse forgedEvent.bytes = .ok forgedEvent := by
  have hHeaders : (Json.obj [(Message.contextHeader, forgedContext.toJson)]).Plain 126 :=
    .obj (List.pairwise_singleton ..) (by simp [InvocationContext.plain_toJson])
  exact Json.parse_bytes (.obj (List.pairwise_singleton ..) (by simp [hHeaders]))

theorem decode_ofQueue (raw : Bytes) : ofQueue.codec.decode raw = Json.parse raw := rfl

theorem accept_keeps_context_traced :
    (∃ plain message, (ofQueue.accept disowned.bytes).value = .ok plain ∧
      (ofQueue.acceptInContext disowned.bytes (.ok tracedContext.toJson)).value = .ok message ∧
      plain.context? = .ok none ∧ message.context? = .ok (some tracedContext)) ∧
    ∃ plain message, (ofQueue.accept forgedEvent.bytes).value = .ok plain ∧
      (ofQueue.acceptInContext forgedEvent.bytes (.ok tracedContext.toJson)).value = .ok message ∧
      plain.context? = .ok (some forgedContext) ∧ message.context? = .ok (some forgedContext) := by
  have hOrdered : ofQueue.codec.IsOrdered := Json.Codec.isOrdered_compact
  constructor
  · obtain ⟨plain, message, hPlain, hMessage, -, hKeeps, -⟩ :=
      accept_keeps_context hOrdered ((decode_ofQueue _).trans parse_disowned) tracedContext
    have hSilent : ∀ value, ¬Brings disowned Message.contextHeader value := by
      intro value hBrings
      have hGet := (get?_callerHeaders_eq_some_iff ..).mpr hBrings
      exact absurd hGet nofun
    exact ⟨plain, message, hPlain, hMessage, hKeeps hSilent⟩
  · obtain ⟨plain, message, hPlain, hMessage, -, -, hYields⟩ :=
      accept_keeps_context hOrdered ((decode_ofQueue _).trans parse_forgedEvent) tracedContext
    have hBrings : Brings forgedEvent Message.contextHeader forgedContext.toJson := ⟨_, rfl, rfl⟩
    have hReads := hYields _ hBrings
    rw [InvocationContext.ofJson_toJson] at hReads
    exact ⟨plain, message, hPlain, hMessage, hReads⟩

end Intake

end InvocationBridge
