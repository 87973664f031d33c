import InvocationBridge.Proofs.Message.Encoding
import InvocationBridge.Proofs.Message.Intake

/-!
Which headers stand on the message for a payload.

A header is either one that the payload brings along, unchanged, or a marker of the bridge that the
payload says nothing about. `adapts_exactly` states this for every way to take a payload in.
-/

namespace InvocationBridge

namespace Json

/-- A codec whose values have their fields in order, as objects that are built field by field do. -/
def Codec.IsOrdered (codec : Codec) : Prop := ∀ text v, codec.decode text = .ok v → v.Ordered

theorem Codec.isOrdered_compact : compact.IsOrdered := fun _ _ => ordered_of_parse

end Json

namespace Intake

/-- A header that a payload brings along, in an object under the name `headers`. -/
def Brings (payload : Json) (name : String) (value : Json) : Prop :=
  ∃ headers : Fields Json, payload.field? "headers" = some (.obj headers) ∧
    headers.get? name = some value

/-- A marker of the bridge. The shape of the payload and the declared type count apart from each
other, and the context is there if one was given. -/
inductive Marks (intake : Intake) (payload : Json) (context : Option Json) :
    String → Json → Prop where
  | gateway (hShape : payload.hasField "httpMethod" ∨
      payload.hasField "routeKey" ∧ payload.hasField "version") :
      Marks intake payload context Message.gatewayFlag (.bool true)
  | event {type : String} (hConsumer : intake.producer = false)
      (hDeclared : intake.declared = some type)
      (hKnown : intake.catalog.kinds.contains (TypeName.simple type)) :
      Marks intake payload context Message.eventFlag (.bool true)
  | context {value : Json} (hContext : context = some value) :
      Marks intake payload context Message.contextHeader value

/-- Everything about the message for a payload: it carries the payload as it came, and has the
headers that the payload brings and those markers that the payload leaves alone. -/
structure Tags (intake : Intake) (raw : Bytes) (payload : Json) (context : Option Json)
    (message : Message) : Prop where
  carries : message.payload = .raw raw
  sorted : message.headers.Sorted
  header_iff : ∀ name value, message.header? name = some value ↔
    Brings payload name value ∨
      (∀ other, ¬ Brings payload name other) ∧ intake.Marks payload context name value

/-- What a payload brings is read from its headers, if these are an object at all. -/
theorem get?_callerHeaders_eq_some_iff (payload : Json) (name : String) (value : Json) :
    (callerHeaders payload).get? name = some value ↔ Brings payload name value := by
  rw [callerHeaders, Brings]
  cases payload.field? "headers" with
  | none => simp [Fields.get?]
  | some field =>
      cases field with
      | obj headers => simp [Json.obj?]
      | _ => simp [Json.obj?, Fields.get?]

theorem get?_callerHeaders_eq_none_iff (payload : Json) (name : String) :
    (callerHeaders payload).get? name = none ↔ ∀ other, ¬ Brings payload name other := by
  simp only [← get?_callerHeaders_eq_some_iff, Option.eq_none_iff_forall_ne_some, Ne]

theorem contains_callerHeaders_iff_brings (payload : Json) (name : String) :
    (callerHeaders payload).contains name = true ↔ ∃ value, Brings payload name value := by
  simp only [Fields.contains, Option.isSome_iff_exists, get?_callerHeaders_eq_some_iff]

theorem Brings.unique {payload : Json} {name : String} {value other : Json}
    (h : Brings payload name value) (hOther : Brings payload name other) : other = value := by
  rw [← get?_callerHeaders_eq_some_iff] at h hOther
  exact Option.some.inj (hOther.symm.trans h)

/-- The markers that are set are those that `Marks` accounts for. -/
theorem get?_markers_eq_some_iff (intake : Intake) (payload : Json) (context : Option Json)
    (name : String) (value : Json) :
    (intake.markers payload context).get? name = some value ↔
      intake.Marks payload context name value := by
  have hShape : isGatewayRequest payload = true ↔ payload.hasField "httpMethod" ∨
      payload.hasField "routeKey" ∧ payload.hasField "version" := by
    simp [isGatewayRequest]
  have hKnown : (intake.catalog.kind? intake.declared).isSome ↔ ∃ type,
      intake.declared = some type ∧ intake.catalog.kinds.contains (TypeName.simple type) := by
    cases intake.declared <;> simp [Catalog.kind?, Fields.contains]
  rw [get?_markers]
  constructor
  · intro h
    split at h
    · next hName => exact hName ▸ .context h
    split at h
    · next hName =>
        split at h
        · next hEvent =>
            cases h
            rw [Bool.and_eq_true, Bool.not_eq_true', hKnown] at hEvent
            obtain ⟨hConsumer, type, hDeclared, hType⟩ := hEvent
            exact hName ▸ .event hConsumer hDeclared hType
        · cases h
    split at h
    · next hName =>
        split at h
        · next hGateway =>
            cases h
            exact hName ▸ .gateway (hShape.mp hGateway)
        · cases h
    · cases h
  · intro h
    cases h with
    | gateway hGateway =>
        rw [if_neg (by decide), if_neg (by decide), if_pos rfl, if_pos (hShape.mpr hGateway)]
    | event hConsumer hDeclared hType =>
        have hEvent := hKnown.mpr ⟨_, hDeclared, hType⟩
        rw [if_neg (by decide), if_pos rfl, hConsumer, hEvent]
        rfl
    | context hContext => rw [if_pos rfl, hContext]

/-- The headers of the payload merged over the markers make the message that `Tags` describes. -/
theorem tags_insertAll {payload : Json} (hOrdered : payload.Ordered) (intake : Intake)
    (raw : Bytes) (context : Option Json) :
    intake.Tags raw payload context
      ⟨.raw raw, (callerHeaders payload).insertAll (intake.markers payload context)⟩ where
  carries := rfl
  sorted := Fields.sorted_insertAll _ (Fields.sorted_ofList _)
  header_iff name value := by
    rw [Message.header?, Fields.get?_insertAll (sorted_callerHeaders hOrdered),
      Option.or_eq_some_iff, get?_callerHeaders_eq_some_iff, get?_callerHeaders_eq_none_iff,
      get?_markers_eq_some_iff]

/-- Two messages for one payload differ in the header for the context at most. -/
theorem Tags.header?_eq {intake : Intake} {raw raw' : Bytes} {payload : Json}
    {context context' : Option Json} {message message' : Message}
    (h : intake.Tags raw payload context message) (h' : intake.Tags raw' payload context' message')
    {name : String} (hName : name ≠ Message.contextHeader) :
    message.header? name = message'.header? name := by
  have hMarks (given given' : Option Json) (value : Json)
      (hMark : intake.Marks payload given name value) :
      intake.Marks payload given' name value := by
    cases hMark with
    | gateway hShape => exact .gateway hShape
    | event hConsumer hDeclared hKnown => exact .event hConsumer hDeclared hKnown
    | context => exact absurd rfl hName
  apply Option.ext
  intro value
  rw [h.header_iff, h'.header_iff]
  have hIff : intake.Marks payload context name value ↔ intake.Marks payload context' name value :=
    ⟨hMarks context context' value, hMarks context' context value⟩
  rw [hIff]

/-- All headers but the context depend on the decoded payload only, not on the
octets it came in. -/
theorem header?_messageOf {payload : Json} (hOrdered : payload.Ordered) (intake : Intake)
    (raw other : Bytes) (context given : Json) {name : String}
    (hName : name ≠ Message.contextHeader) :
    (intake.messageOf other payload given).header? name =
      (intake.messageOf raw payload context).header? name :=
  (tags_insertAll hOrdered intake other (some given)).header?_eq
    (tags_insertAll hOrdered intake raw (some context)) hName

/-- A payload whose message carries the flag of a gateway: it brings the flag, or it has the shape of
a gateway request and says nothing about the flag. -/
def FromGateway (payload : Json) : Prop :=
  Brings payload Message.gatewayFlag (.bool true) ∨
    isGatewayRequest payload = true ∧ ∀ value, ¬ Brings payload Message.gatewayFlag value

/-- A message is flagged exactly if it is from a gateway and its payload does not deny it. -/
theorem isSet_gatewayFlag_messageOf_iff {payload : Json} (hOrdered : payload.Ordered)
    (intake : Intake) (raw : Bytes) (context : Json) :
    (intake.messageOf raw payload context).isSet Message.gatewayFlag = true ↔
      FromGateway payload := by
  have hMarks : intake.Marks payload (some context) Message.gatewayFlag (.bool true) ↔
      isGatewayRequest payload = true := by
    rw [← get?_markers_eq_some_iff, get?_gatewayFlag_markers]
    simp
  have hTags : intake.Tags raw payload (some context) (intake.messageOf raw payload context) :=
    tags_insertAll hOrdered intake raw (some context)
  rw [Message.isSet_iff, hTags.header_iff, hMarks, FromGateway, and_comm]

/-- For a payload of the right shape, only a header of its own can take the flag away. -/
theorem fromGateway_iff {payload : Json} (hShape : isGatewayRequest payload = true) :
    FromGateway payload ↔ ∀ value, Brings payload Message.gatewayFlag value → value = .bool true := by
  constructor
  · rintro (hTrue | ⟨-, hSilent⟩) value hBrings
    · exact hTrue.unique hBrings
    · exact absurd hBrings (hSilent value)
  · intro hOnly
    by_cases hSilent : ∀ value, ¬ Brings payload Message.gatewayFlag value
    · exact .inr ⟨hShape, hSilent⟩
    · obtain ⟨value, hBrings⟩ := Classical.not_forall_not.mp hSilent
      obtain rfl := hOnly value hBrings
      exact .inl hBrings

/-- Taking a payload in fails only if it cannot be decoded. -/
theorem value_take_eq_error_iff (intake : Intake) (raw : Bytes) (context : Option Json)
    (error : MessageError) :
    (intake.take raw context).value = .error error ↔
      ∃ cause, intake.codec.decode raw = .error cause ∧ error = .notDecoded cause := by
  cases hDecode : intake.codec.decode raw <;> simp [take, hDecode, eq_comm]

theorem tags_of_value_take {intake : Intake} (hCodec : intake.codec.IsOrdered) {raw : Bytes}
    {context : Option Json} {message : Message} {payload : Json}
    (h : (intake.take raw context).value = .ok (message, payload)) :
    intake.codec.decode raw = .ok payload ∧ intake.Tags raw payload context message := by
  cases hDecode : intake.codec.decode raw with
  | error cause => simp [take, hDecode] at h
  | ok decoded =>
      simp only [take, hDecode, Logged.value_bind, Logged.value_pure] at h
      cases h
      exact ⟨rfl, tags_insertAll (hCodec _ _ hDecode) intake raw context⟩

/-- With a context there are two ways to fail, and that of the context comes first. -/
theorem value_acceptDecoded_eq_error_iff (intake : Intake) (raw : Bytes)
    (context : Except Json.Error Json) (error : MessageError) :
    (intake.acceptDecoded raw context).value = .error error ↔
      (∃ cause, context = .error cause ∧ error = .notEncoded "invocation context" cause) ∨
      ∃ given cause, context = .ok given ∧ intake.codec.decode raw = .error cause ∧
        error = .notDecoded cause := by
  cases context with
  | error cause => simp [acceptDecoded, eq_comm]
  | ok given => simp [acceptDecoded, value_take_eq_error_iff]

/-- A context that was given is on the message, next to the headers of the payload. -/
theorem tags_of_value_acceptDecoded {intake : Intake} (hCodec : intake.codec.IsOrdered)
    {raw : Bytes} {context : Except Json.Error Json} {message : Message} {payload : Json}
    (h : (intake.acceptDecoded raw context).value = .ok (message, payload)) :
    intake.codec.decode raw = .ok payload ∧
      ∃ given, context = .ok given ∧ intake.Tags raw payload (some given) message := by
  cases context with
  | error cause => cases h
  | ok given =>
      obtain ⟨hDecode, hTags⟩ := tags_of_value_take hCodec h
      exact ⟨hDecode, given, rfl, hTags⟩

theorem tags_of_value_accept {intake : Intake} (hCodec : intake.codec.IsOrdered) {raw : Bytes}
    {message : Message} (h : (intake.accept raw).value = .ok message) :
    ∃ payload, intake.codec.decode raw = .ok payload ∧ intake.Tags raw payload none message := by
  obtain ⟨⟨_, payload⟩, hTake, rfl⟩ := map_eq_ok_iff.mp h
  exact ⟨payload, tags_of_value_take hCodec hTake⟩

/-- Taking a payload in fails only for a context without a JSON form, which is found first, or for a
payload that the codec cannot read. Otherwise the message is tagged as `Tags` says, whichever way
was taken, and with a context it differs in that header alone. -/
theorem adapts_exactly {intake : Intake} (hCodec : intake.codec.IsOrdered) (raw : Bytes)
    (context : Except Json.Error Json) :
    (∀ error, (intake.accept raw).value = .error error ↔
      ∃ cause, intake.codec.decode raw = .error cause ∧ error = .notDecoded cause) ∧
    (∀ error, (intake.acceptDecoded raw context).value = .error error ↔
      (∃ cause, context = .error cause ∧ error = .notEncoded "invocation context" cause) ∨
      ∃ given cause, context = .ok given ∧ intake.codec.decode raw = .error cause ∧
        error = .notDecoded cause) ∧
    (∀ message, (intake.accept raw).value = .ok message →
      ∃ payload, intake.codec.decode raw = .ok payload ∧ intake.Tags raw payload none message) ∧
    (∀ message payload, (intake.acceptDecoded raw context).value = .ok (message, payload) →
      intake.codec.decode raw = .ok payload ∧
        ∃ given, context = .ok given ∧ intake.Tags raw payload (some given) message) ∧
    (intake.acceptInContext raw context).value =
      (intake.acceptDecoded raw context).value.map Prod.fst ∧
    (∀ plain message, (intake.accept raw).value = .ok plain →
      (intake.acceptInContext raw context).value = .ok message →
      message.payload = plain.payload ∧
        ∀ name, name ≠ Message.contextHeader → message.header? name = plain.header? name) := by
  refine ⟨fun error => ?_, value_acceptDecoded_eq_error_iff intake raw context,
    fun _ => tags_of_value_accept hCodec, fun _ _ => tags_of_value_acceptDecoded hCodec, rfl, ?_⟩
  · exact map_eq_error_iff.trans (value_take_eq_error_iff intake raw none error)
  · intro plain message hPlain hMessage
    obtain ⟨payload, hDecode, hTags⟩ := tags_of_value_accept hCodec hPlain
    obtain ⟨⟨_, decoded⟩, hTake, rfl⟩ := map_eq_ok_iff.mp hMessage
    obtain ⟨hDecode', given, -, hTags'⟩ := tags_of_value_acceptDecoded hCodec hTake
    rw [hDecode] at hDecode'
    cases hDecode'
    exact ⟨hTags'.carries.trans hTags.carries.symm, fun name hName => hTags'.header?_eq hTags hName⟩

/-- An intake for a handler of queue events. -/
def ofQueue : Intake where
  catalog := .standard
  codec := .compact
  declared := some "events::SqsEvent"

/-- A gateway request that says it is none. -/
def disowned : Json :=
  .obj [("headers", .obj [(Message.gatewayFlag, .bool false)]), ("httpMethod", .str "GET")]

theorem parse_disowned : Json.parse disowned.bytes = .ok disowned := by
  have hHeaders : (Json.obj [(Message.gatewayFlag, .bool false)]).Plain 126 :=
    .obj (List.pairwise_singleton ..) (by simp [Json.Plain.bool])
  exact Json.parse_bytes (.obj
    (Fields.sorted_of_map_fst ["headers", "httpMethod"] rfl (by decide))
    (by simp [hHeaders, Json.Plain.str]))

theorem simple_queueType : TypeName.simple "events::SqsEvent" = "SqsEvent" := by
  rw [TypeName.simple, TypeName.simpleChars]
  decide

theorem adapts_disowned : ∃ message,
    (ofQueue.acceptDecoded disowned.bytes (.ok .null)).value = .ok (message, disowned) ∧
    message.header? Message.gatewayFlag = some (.bool false) ∧
    message.header? Message.eventFlag = some (.bool true) ∧
    message.header? Message.contextHeader = some .null := by
  have hOrdered : ofQueue.codec.IsOrdered := Json.Codec.isOrdered_compact
  have hCodec : ofQueue.codec = .compact := rfl
  have hDecode : ofQueue.codec.decode disowned.bytes = .ok disowned := by
    rw [hCodec, Json.Codec.decode_compact, parse_disowned]
  have hBrings (name : String) (value : Json) : Brings disowned name value ↔
      Fields.get? name [(Message.gatewayFlag, .bool false)] = some value := by
    rw [← get?_callerHeaders_eq_some_iff]
    rfl
  have hSilent (name : String) (hName : name ≠ Message.gatewayFlag) (other : Json) :
      ¬ Brings disowned name other := by
    rw [hBrings]
    simp [Fields.get?, Ne.symm hName]
  have hKnown : ofQueue.catalog.kinds.contains (TypeName.simple "events::SqsEvent") := by
    rw [simple_queueType]
    decide
  have hMarks : ofQueue.Marks disowned (some .null) Message.eventFlag (.bool true) :=
    .event rfl rfl hKnown
  obtain ⟨-, hFails, -, hTagged, -⟩ :=
    adapts_exactly hOrdered disowned.bytes (.ok .null)
  cases hResult : (ofQueue.acceptDecoded disowned.bytes (.ok .null)).value with
  | error error =>
      rcases (hFails error).mp hResult with ⟨_, hContext, -⟩ | ⟨_, _, -, hRefused, -⟩
      · cases hContext
      · rw [hDecode] at hRefused
        cases hRefused
  | ok taken =>
      obtain ⟨message, payload⟩ := taken
      obtain ⟨hDecoded, given, hGiven, hTags⟩ := hTagged message payload hResult
      rw [hDecode] at hDecoded
      cases hDecoded
      cases hGiven
      refine ⟨message, rfl, ?_, ?_, ?_⟩
      · exact (hTags.header_iff ..).mpr (.inl ((hBrings ..).mpr rfl))
      · exact (hTags.header_iff ..).mpr (.inr ⟨hSilent _ (by decide), hMarks⟩)
      · exact (hTags.header_iff ..).mpr (.inr ⟨hSilent _ (by decide), .context rfl⟩)

end Intake

end InvocationBridge
