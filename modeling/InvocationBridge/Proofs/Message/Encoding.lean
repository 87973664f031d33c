import InvocationBridge.Message.Reply
import InvocationBridge.Proofs.Except
import InvocationBridge.Proofs.Json.Value

/-!
What goes out for an answer, and when nothing can.

`value_encode` is the account of it for any codec. An answer goes out by itself or in an envelope,
and the request decides on no more than that and on whether the envelope explains the status.
-/

namespace InvocationBridge

namespace Message

/-- A flag is set by `true` alone: neither a text nor a number counts. -/
theorem isSet_iff (m : Message) (name : String) :
    m.isSet name = true ↔ m.header? name = some (.bool true) := by
  unfold isSet
  split
  · next hHeader => simp [hHeader]
  · next hOther => simpa using hOther

end Message

namespace Reply

/-- The octets of an answer by itself, if the codec can write them. -/
inductive Extracts (codec : Json.Codec) : Option Message → Bytes → Prop where
  | absent : Extracts codec none [0x22, 0x4F, 0x4B, 0x22]
  | raw {answer : Message} {octets : Bytes} (hPayload : answer.payload = .raw octets) :
      Extracts codec (some answer) octets
  | structured {answer : Message} {value : Json} {octets : Bytes}
      (hPayload : answer.payload = .structured value) (hEncode : codec.encode value = .ok octets) :
      Extracts codec (some answer) octets

/-- An answer whose payload the codec cannot write, and why. -/
inductive Withholds (codec : Json.Codec) : Option Message → Json.Error → Prop where
  | structured {answer : Message} {value : Json} {cause : Json.Error}
      (hPayload : answer.payload = .structured value) (hEncode : codec.encode value = .error cause) :
      Withholds codec (some answer) cause

/-- An answer that needs no envelope, because its type is final or no gateway asked for it. -/
def IsBare (request : Message) (declared : Option String) : Prop :=
  (∃ name, declared = some name ∧ TypeName.simple name ∈ finalTypes) ∨
    request.header? Message.gatewayFlag ≠ some (.bool true)

/-- The status that an answer is sent with. -/
def statusFor : Option Message → Http.Status
  | some answer => (status answer).value
  | none => .ok

/-- The relation and the function agree on what can be written. -/
theorem payload_eq_ok_iff (codec : Json.Codec) (response : Option Message) (body : Bytes) :
    payload codec response = .ok body ↔ Extracts codec response body := by
  constructor
  · intro h
    match response with
    | none =>
        cases h
        exact .absent
    | some ⟨.raw octets, headers⟩ =>
        cases h
        exact .raw rfl
    | some ⟨.structured value, headers⟩ => exact .structured rfl (mapError_eq_ok_iff.mp h)
  · intro h
    cases h with
    | absent => rfl
    | raw hPayload => rw [payload, hPayload, Payload.wire]
    | structured hPayload hEncode =>
        rw [payload, hPayload, Payload.wire, mapError_eq_ok_iff, hEncode]

theorem payload_eq_error_iff (codec : Json.Codec) (response : Option Message)
    (error : MessageError) :
    payload codec response = .error error ↔
      ∃ cause, Withholds codec response cause ∧ error = .notEncoded "message payload" cause := by
  constructor
  · intro h
    match response with
    | none => cases h
    | some ⟨.raw octets, headers⟩ => cases h
    | some ⟨.structured value, headers⟩ =>
        obtain ⟨cause, hEncode, hError⟩ := mapError_eq_error_iff.mp h
        exact ⟨cause, .structured rfl hEncode, hError⟩
  · rintro ⟨cause, ⟨hPayload, hEncode⟩, rfl⟩
    rw [payload, hPayload, Payload.wire, mapError_eq_error_iff]
    exact ⟨cause, hEncode, rfl⟩

/-- The condition that the encoder checks, in terms of the request and the declared type. -/
theorem isBare_iff (request : Message) (declared : Option String) :
    (isFinalType declared || !request.isSet Message.gatewayFlag) = true ↔
      IsBare request declared := by
  have hFinal : isFinalType declared = true ↔
      ∃ name, declared = some name ∧ TypeName.simple name ∈ finalTypes := by
    cases declared <;> simp [isFinalType]
  rw [Bool.or_eq_true, hFinal, Bool.not_eq_true', IsBare, Ne, ← Message.isSet_iff,
    Bool.not_eq_true]

/-- What is encoded for an answer. The answer is extracted first, so that a payload that cannot be
written is reported even if no envelope is needed. -/
theorem value_encode (request : Message) (response : Option Message) (codec : Json.Codec)
    (declared : Option String) :
    (encode request response codec declared).value =
      match payload codec response with
      | .error error => .error error
      | .ok body =>
        if isFinalType declared || !request.isSet Message.gatewayFlag then .ok body
        else
          (codec.encode (envelope (statusFor response) (request.hasHeader Message.recordsHeader) body
            (response.map Message.headers))).mapError
            (.invalidState "Failed to serialize AWS Lambda output") := by
  rw [encode]
  cases request.payload.wire codec <;> cases payload codec response <;>
    cases isFinalType declared || !request.isSet Message.gatewayFlag <;> cases response <;>
    simp [statusFor]

/-- Of a request only two things count for what goes out: whether the flag of a gateway is set, and
whether there are records. -/
theorem value_encode_congr {request other : Message}
    (hFlag : other.isSet Message.gatewayFlag = request.isSet Message.gatewayFlag)
    (hRecords : other.hasHeader Message.recordsHeader = request.hasHeader Message.recordsHeader)
    (response : Option Message) (codec : Json.Codec) (declared : Option String) :
    (encode other response codec declared).value =
      (encode request response codec declared).value := by
  rw [value_encode, value_encode, hFlag, hRecords]

/-- An answer that can be written goes out bare or in an envelope, as the request has it. -/
theorem value_encode_of_extracts {codec : Json.Codec} {response : Option Message} {body : Bytes}
    (h : Extracts codec response body) (request : Message) (declared : Option String) :
    (IsBare request declared → (encode request response codec declared).value = .ok body) ∧
    (¬ IsBare request declared → (encode request response codec declared).value =
      (codec.encode (envelope (statusFor response) (request.hasHeader Message.recordsHeader) body
        (response.map Message.headers))).mapError
        (.invalidState "Failed to serialize AWS Lambda output")) := by
  rw [value_encode, (payload_eq_ok_iff ..).mpr h, ← isBare_iff]
  exact ⟨fun hBare => if_pos hBare, fun hBare => if_neg hBare⟩

/-- An answer that cannot be written fails for all requests alike. -/
theorem value_encode_of_withholds {codec : Json.Codec} {response : Option Message}
    {cause : Json.Error} (h : Withholds codec response cause) (request : Message)
    (declared : Option String) :
    (encode request response codec declared).value = .error (.notEncoded "message payload" cause) := by
  rw [value_encode, (payload_eq_error_iff ..).mpr ⟨cause, h, rfl⟩]

/-- Encoding fails for two reasons alone: the codec cannot write the payload of the answer, or it
cannot write the envelope that a gateway asked for. The request has no other part in what goes out
than that a gateway sent it and that it has records. -/
theorem encode_refuses_iff (codec : Json.Codec) (request : Message) (response : Option Message)
    (declared : Option String) :
    (∀ error, (encode request response codec declared).value = .error error ↔
      (∃ cause, Withholds codec response cause ∧ error = .notEncoded "message payload" cause) ∨
      ∃ body cause, Extracts codec response body ∧ ¬ IsBare request declared ∧
        codec.encode (envelope (statusFor response) (request.hasHeader Message.recordsHeader) body
          (response.map Message.headers)) = .error cause ∧
        error = .invalidState "Failed to serialize AWS Lambda output" cause) ∧
    (∀ body, Extracts codec response body → IsBare request declared →
      (encode request response codec declared).value = .ok body) ∧
    ∀ other : Message,
      (other.header? Message.gatewayFlag = some (.bool true) ↔
        request.header? Message.gatewayFlag = some (.bool true)) →
      (other.hasHeader Message.recordsHeader ↔ request.hasHeader Message.recordsHeader) →
      (encode other response codec declared).value =
        (encode request response codec declared).value := by
  refine ⟨fun error => ⟨fun h => ?_, ?_⟩, ?_, ?_⟩
  · cases hBody : payload codec response with
    | error refusal =>
        rw [value_encode, hBody] at h
        cases h
        exact .inl ((payload_eq_error_iff ..).mp hBody)
    | ok body =>
        have hExtracts := (payload_eq_ok_iff ..).mp hBody
        obtain ⟨hAlone, hInside⟩ := value_encode_of_extracts hExtracts request declared
        by_cases hBare : IsBare request declared
        · rw [hAlone hBare] at h
          cases h
        · rw [hInside hBare, mapError_eq_error_iff] at h
          obtain ⟨cause, hEncode, hError⟩ := h
          exact .inr ⟨body, cause, hExtracts, hBare, hEncode, hError⟩
  · rintro (⟨cause, hWithholds, rfl⟩ | ⟨body, cause, hExtracts, hBare, hEncode, rfl⟩)
    · exact value_encode_of_withholds hWithholds request declared
    · rw [(value_encode_of_extracts hExtracts request declared).2 hBare, mapError_eq_error_iff]
      exact ⟨cause, hEncode, rfl⟩
  · exact fun body hExtracts => (value_encode_of_extracts hExtracts request declared).1
  · intro other hFlag hRecords
    rw [← Message.isSet_iff, ← Message.isSet_iff] at hFlag
    exact value_encode_congr (Bool.eq_iff_iff.mpr hFlag) (Bool.eq_iff_iff.mpr hRecords) ..

/-- A codec that reads every value and writes none. -/
def readOnly : Json.Codec :=
  { Json.Codec.compact with encode := fun _ => .error (.plain (.other "read-only codec")) }

/-- A gateway request whose flag is no Boolean, with records. -/
def misflagged : Message :=
  ⟨.raw [], [(Message.recordsHeader, .bool false), (Message.gatewayFlag, .str "true")]⟩

theorem header?_misflagged : misflagged.header? Message.gatewayFlag = some (.str "true") := rfl

/-- A request that cannot even be shown in the log gets the same answer as one that can. -/
theorem encode_readOnly :
    (encode ⟨.structured .null, [(Message.recordsHeader, .null)]⟩ (some ⟨.raw [0x41], []⟩) readOnly
      none).value = .ok [0x41] := by
  obtain ⟨-, hBare, hAlike⟩ := encode_refuses_iff readOnly misflagged (some ⟨.raw [0x41], []⟩) none
  have hUnset : misflagged.header? Message.gatewayFlag ≠ some (.bool true) := by
    simp [header?_misflagged]
  have hOther : (Message.mk (.structured .null) [(Message.recordsHeader, .null)]).header?
      Message.gatewayFlag ≠ some (.bool true) := nofun
  rw [hAlike _ (iff_of_false hOther hUnset) (by decide)]
  exact hBare [0x41] (.raw rfl) (.inr hUnset)

end Reply

end InvocationBridge
