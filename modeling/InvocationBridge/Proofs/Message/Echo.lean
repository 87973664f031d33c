import InvocationBridge.Proofs.Json.RoundTrip
import InvocationBridge.Proofs.Message.Envelope
import InvocationBridge.Proofs.Message.Markers

/-!
What a gateway gets back from a handler that answers with its payload.

The payload is written twice over: as a text, and as a string in the text of the envelope. What is
read after both is the payload again.
-/

namespace InvocationBridge

namespace Json

theorem ofText_text (v : Json) : Bytes.ofText v.text = v.bytes := by
  rw [Bytes.ofText, text, String.toList_ofList, bytes]

/-- What is written is valid UTF-8, so that nothing is lost in a body. -/
theorem textLossy_bytes (v : Json) : v.bytes.textLossy = v.text := by
  rw [← ofText_text, Bytes.textLossy_ofText]

end Json

namespace Reply

/-- Octets that spell an envelope, with a value as text in its body. -/
inductive Returns (request answer : Message) (value : Json) (output : Bytes) : Prop where
  | envelope {fields : Fields Json} {text : String}
      (hParse : Json.parse output = .ok (.obj fields))
      (hEncloses : Encloses (statusFor (some answer)) (request.hasHeader Message.recordsHeader)
        (Bytes.ofText text) (some answer.headers) fields)
      (hBody : fields.get? "body" = some (.str text))
      (hValue : Json.parse (Bytes.ofText text) = .ok value) :
      Returns request answer value output

/-- Answering a request with a value returns the value. -/
def Echoes (request : Message) (value : Json) (headers : Fields Json)
    (declared : Option String) : Prop :=
  ∃ output, (encode request (some ⟨.structured value, headers⟩) .compact declared).value =
      .ok output ∧
    Returns request ⟨.structured value, headers⟩ value output

/-- Inside an envelope the value is a text; it is read back in two steps, the envelope first and
its body after that. -/
theorem echoes_of_not_isBare {raw : Bytes} {value : Json} (hParse : Json.parse raw = .ok value)
    (hIntegral : value.Integral) {request : Message} {declared : Option String}
    (hInside : ¬IsBare request declared) {headers : Fields Json} (hHeaders : headers.Sorted) :
    Echoes request value headers declared := by
  have hExtracts : Extracts .compact (some ⟨.structured value, headers⟩) value.bytes :=
    .structured rfl rfl
  have hSorted : ∀ source, some headers = some source → source.Sorted := by
    rintro source ⟨⟩
    exact hHeaders
  obtain ⟨fields, hOutput, hEncloses⟩ :=
    exists_encloses (statusFor (some ⟨.structured value, headers⟩))
      (request.hasHeader Message.recordsHeader) value.bytes hSorted
  have hBody := hEncloses.text
  rw [Json.textLossy_bytes] at hBody
  rw [← Json.ofText_text] at hEncloses
  refine ⟨_, (value_encode_of_extracts hExtracts request declared).2 hInside,
    .envelope hOutput hEncloses hBody ?_⟩
  rw [Json.ofText_text]
  exact Json.parse_bytes_of_parse hParse hIntegral

end Reply

namespace Intake

/-- A payload of the shape of a gateway request that leaves the flag alone gets its answer inside an
envelope, unless the output type is final. -/
theorem Tags.not_isBare {intake : Intake} {raw : Bytes} {payload : Json} {context : Option Json}
    {message : Message} (h : intake.Tags raw payload context message)
    (hShape : payload.hasField "httpMethod" ∨
      payload.hasField "routeKey" ∧ payload.hasField "version")
    (hSilent : ∀ value, ¬Brings payload Message.gatewayFlag value) {declared : Option String}
    (hType : ∀ name, declared = some name → TypeName.simple name ∉ Reply.finalTypes) :
    ¬Reply.IsBare message declared := by
  rintro (⟨name, hName, hFinal⟩ | hUnset)
  · exact hType name hName hFinal
  · exact hUnset ((h.header_iff ..).mpr (.inr ⟨hSilent, .gateway hShape⟩))

/-- Whatever can be decoded is taken in. -/
theorem value_take_of_decode {intake : Intake} {raw : Bytes} {payload : Json}
    (hDecode : intake.codec.decode raw = .ok payload) (context : Option Json) :
    ∃ message, (intake.take raw context).value = .ok (message, payload) := by
  simp [take, hDecode]

/-- A payload that was taken in and given for an answer is read again from the body of the envelope,
whatever strings it holds and however deep it goes, and whichever way it was taken in. -/
theorem accept_echoes {intake : Intake} (hCodec : intake.codec = .compact) {raw : Bytes}
    {payload : Json} (hParse : Json.parse raw = .ok payload) (hIntegral : payload.Integral)
    (hShape : payload.hasField "httpMethod" ∨
      payload.hasField "routeKey" ∧ payload.hasField "version")
    (hSilent : ∀ value, ¬Brings payload Message.gatewayFlag value) {declared : Option String}
    (hType : ∀ name, declared = some name → TypeName.simple name ∉ Reply.finalTypes)
    {headers : Fields Json} (hHeaders : headers.Sorted) :
    (∃ message, (intake.accept raw).value = .ok message ∧
      Reply.Echoes message payload headers declared) ∧
    ∀ context, ∃ message, (intake.acceptInContext raw (.ok context)).value = .ok message ∧
      (intake.acceptDecoded raw (.ok context)).value = .ok (message, payload) ∧
      Reply.Echoes message payload headers declared := by
  have hOrdered : intake.codec.IsOrdered := hCodec ▸ Json.Codec.isOrdered_compact
  have hDecode : intake.codec.decode raw = .ok payload := by
    rw [hCodec, Json.Codec.decode_compact, hParse]
  have hTaken (context : Option Json) : ∃ message,
      (intake.take raw context).value = .ok (message, payload) ∧
        Reply.Echoes message payload headers declared := by
    obtain ⟨message, hTake⟩ := value_take_of_decode hDecode context
    obtain ⟨-, hTags⟩ := tags_of_value_take hOrdered hTake
    have hInside := hTags.not_isBare hShape hSilent hType
    exact ⟨message, hTake, Reply.echoes_of_not_isBare hParse hIntegral hInside hHeaders⟩
  constructor
  · obtain ⟨message, hTake, hEchoes⟩ := hTaken none
    exact ⟨message, map_eq_ok_iff.mpr ⟨_, hTake, rfl⟩, hEchoes⟩
  · intro context
    obtain ⟨message, hTake, hEchoes⟩ := hTaken (some context)
    exact ⟨message, map_eq_ok_iff.mpr ⟨_, hTake, rfl⟩, hTake, hEchoes⟩

/-- What a gateway request holds under a name that wants escapes: texts that want them too, and the
largest and the smallest integer. -/
def quotedItems : List Json :=
  [.str "\\u0041\x00\t\"é\u2028", .ofNat 18446744073709551615,
    .arr [.ofInt (-9223372036854775808), .obj []]]

def quotedRequest : Json :=
  .obj [("\"\\\n", .arr quotedItems), ("httpMethod", .str "PUT")]

theorem parse_quotedRequest : Json.parse quotedRequest.bytes = .ok quotedRequest := by
  have hLargest : (Json.ofNat 18446744073709551615).Plain 125 := .int (by decide) (by decide)
  have hSmallest : (Json.ofInt (-9223372036854775808)).Plain 124 := .int (by decide) (by decide)
  have hEmpty : (Json.obj []).Plain 124 := .obj List.Pairwise.nil nofun
  have hInner : (Json.arr [.ofInt (-9223372036854775808), .obj []]).Plain 125 :=
    .arr (by simp [hSmallest, hEmpty])
  have hItems : (Json.arr quotedItems).Plain 126 :=
    .arr (by simp [quotedItems, Json.Plain.str, hLargest, hInner])
  exact Json.parse_bytes (.obj
    (Fields.sorted_of_map_fst ["\"\\\n", "httpMethod"] rfl (by decide))
    (by simp [hItems, Json.Plain.str]))

theorem integral_quotedRequest : quotedRequest.Integral := by
  have hLargest : (Json.ofNat 18446744073709551615).Integral := .int _
  have hSmallest : (Json.ofInt (-9223372036854775808)).Integral := .int _
  have hEmpty : (Json.obj []).Integral := .obj nofun
  have hInner : (Json.arr [.ofInt (-9223372036854775808), .obj []]).Integral :=
    .arr (by simp [hSmallest, hEmpty])
  have hItems : (Json.arr quotedItems).Integral :=
    .arr (by simp [quotedItems, Json.Integral.str, hLargest, hInner])
  exact .obj (by simp [hItems, Json.Integral.str])

theorem accept_echoes_quotedRequest : ∃ message,
    (ofQueue.accept quotedRequest.bytes).value = .ok message ∧
    Reply.Echoes message quotedRequest [(Message.statusHeader, .ofNat 201)] none := by
  have hSilent : ∀ value, ¬Brings quotedRequest Message.gatewayFlag value := by
    rintro value ⟨headers, hHeaders, -⟩
    cases hHeaders
  have hType : ∀ name, none = some name → TypeName.simple name ∉ Reply.finalTypes := nofun
  exact (accept_echoes rfl parse_quotedRequest integral_quotedRequest (.inl rfl) hSilent hType
    (List.pairwise_singleton ..)).1

end Intake

end InvocationBridge
