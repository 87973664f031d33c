import InvocationBridge.Proofs.Message.Encoding
import InvocationBridge.Web.Response

/-!
Envelopes: what a gateway reads in the octets that go out for an answer.

`Encloses` says which fields stand in the envelope of an answer, and `Wraps` what that comes to for
the answer that a response makes. The octets that are written spell exactly those.
-/

namespace InvocationBridge

namespace Http.Headers

/-- Names in lower case never get in the way of the header for the status. -/
theorem get?_statusHeader (headers : Http.Headers) :
    headers.fields.get? Message.statusHeader = none := by
  cases hGet : headers.fields.get? Message.statusHeader with
  | none => rfl
  | some values =>
      have hNoName : ¬ isHeaderName Message.statusHeader := by decide
      exact absurd (headers.names_valid _ (Fields.mem_of_get? hGet)) hNoName

end Http.Headers

namespace Json

theorem text_ofNat (n : Nat) : (ofNat n).text = toString n := by
  have hSign : ¬ ((n : Int) < 0) := by omega
  rw [ofNat, ofInt, text, chars, Number.chars, if_neg hSign, Int.natAbs_natCast]
  rfl

end Json

namespace Reply

/-- The texts that stand for headers in an envelope: a string as it is, and of any other value the
compact text. -/
structure Spells (headers texts : Fields Json) : Prop where
  sorted : texts.Sorted
  names : ∀ name, texts.contains name ↔ headers.contains name
  string : ∀ name s, headers.get? name = some (.str s) → texts.get? name = some (.str s)
  other : ∀ name v, headers.get? name = some v → (∀ s, v ≠ .str s) →
    texts.get? name = some (.str v.text)

/-- Everything that an envelope holds. The meaning of the status is there if it is `described`, and
the headers if there are any to tell of. -/
structure Encloses (status : Http.Status) (described : Prop) (body : Bytes)
    (headers : Option (Fields Json)) (fields : Fields Json) : Prop where
  names : ∀ name, fields.contains name ↔
    name ∈ ["isBase64Encoded", "statusCode", "body"] ∨
      name = "statusDescription" ∧ described ∨ name = "headers" ∧ headers ≠ none
  encoding : fields.get? "isBase64Encoded" = some (.bool false)
  code : fields.get? "statusCode" = some (.ofNat status.code)
  description : described → fields.get? "statusDescription" = some (.str status.text)
  text : fields.get? "body" = some (.str body.textLossy)
  texts : ∀ source, headers = some source →
    ∃ texts, fields.get? "headers" = some (.obj texts) ∧ Spells source texts

/-- Making a text of every value spells all headers, each once. -/
theorem spells_mapValues {headers : Fields Json} (hSorted : headers.Sorted) :
    Spells headers (headers.mapValues fun v => .str v.plainText) := by
  have hText {name : String} {v : Json} (h : headers.get? name = some v) :
      (headers.mapValues fun v => Json.str v.plainText).get? name = some (.str v.plainText) := by
    rw [Fields.get?_mapValues, h, Option.map_some]
  refine ⟨Fields.sorted_mapValues _ hSorted, fun name => ?_, fun name s h => hText h,
    fun name v h hOther => ?_⟩
  · rw [Fields.contains, Fields.get?_mapValues, Option.isSome_map, Fields.contains]
  · rw [hText h]
    cases v with
    | str s => exact absurd rfl (hOther s)
    | _ => rfl

/-- The envelope of an answer, field by field in order. -/
theorem envelope_eq (status : Http.Status) (describe : Bool) (body : Bytes)
    (headers : Option (Fields Json)) :
    envelope status describe body headers = .obj
      ([("body", .str body.textLossy)] ++
      (match headers with
        | some headers => [("headers", .obj (headers.mapValues fun v => .str v.plainText))]
        | none => []) ++
      [("isBase64Encoded", .bool false), ("statusCode", .ofNat status.code)] ++
      if describe then [("statusDescription", .str status.text)] else []) := by
  cases describe <;> cases headers <;> rfl

/-- An envelope can always be written and read, whatever the body is. -/
theorem plain_envelope (status : Http.Status) (describe : Bool) (body : Bytes)
    {headers : Option (Fields Json)} (hSorted : ∀ source, headers = some source → source.Sorted)
    (depth : Nat) : (envelope status describe body headers).Plain (depth + 2) := by
  have hStatus := status.upper
  have hCode : (Json.ofNat status.code).Plain (depth + 1) := .int (by omega) (by omega)
  have hHeaders (source : Fields Json) (hSource : headers = some source) :
      (Json.obj (source.mapValues fun v => .str v.plainText)).Plain (depth + 1) :=
    .texts (hSorted source hSource) Json.plainText depth
  rw [envelope_eq]
  refine .obj ?_ ?_
  · match describe, headers with
    | false, none =>
        exact Fields.sorted_of_map_fst ["body", "isBase64Encoded", "statusCode"] rfl (by decide)
    | true, none =>
        exact Fields.sorted_of_map_fst ["body", "isBase64Encoded", "statusCode",
          "statusDescription"] rfl (by decide)
    | false, some _ =>
        exact Fields.sorted_of_map_fst ["body", "headers", "isBase64Encoded", "statusCode"] rfl
          (by decide)
    | true, some _ =>
        exact Fields.sorted_of_map_fst ["body", "headers", "isBase64Encoded", "statusCode",
          "statusDescription"] rfl (by decide)
  · cases describe <;> cases headers <;> simp [Json.Plain.str, Json.Plain.bool, hCode, hHeaders]

/-- The envelope has the status, the body and the headers of the answer, and the description
only if asked to. -/
theorem encloses_envelope (status : Http.Status) (describe : Bool) (body : Bytes)
    {headers : Option (Fields Json)} (hSorted : ∀ source, headers = some source → source.Sorted) :
    ∃ fields, envelope status describe body headers = .obj fields ∧
      Encloses status (describe = true) body headers fields := by
  refine ⟨_, envelope_eq .., fun name => ?_, ?_, ?_, ?_, ?_, ?_⟩
  · rw [Fields.contains_iff_mem]
    cases describe <;> cases headers <;> simp <;> grind
  · cases headers <;> rfl
  · cases headers <;> rfl
  · rintro rfl
    cases headers <;> rfl
  · rfl
  · rintro source rfl
    exact ⟨_, rfl, spells_mapValues (hSorted source rfl)⟩

/-- What is written for an envelope spells the envelope. -/
theorem exists_encloses (status : Http.Status) (describe : Bool) (body : Bytes)
    {headers : Option (Fields Json)} (hSorted : ∀ source, headers = some source → source.Sorted) :
    ∃ fields, Json.parse (envelope status describe body headers).bytes = .ok (.obj fields) ∧
      Encloses status (describe = true) body headers fields := by
  obtain ⟨fields, hEnvelope, hEncloses⟩ := encloses_envelope status describe body hSorted
  have hParse := Json.parse_bytes (plain_envelope status describe body hSorted 125)
  exact ⟨fields, hEnvelope ▸ hParse, hEncloses⟩

/-- The compact codec writes every answer, so that it withholds none. -/
theorem exists_extracts_compact (response : Option Message) :
    ∃ body, Extracts .compact response body := by
  match response with
  | none => exact ⟨_, .absent⟩
  | some ⟨.raw octets, headers⟩ => exact ⟨octets, .raw rfl⟩
  | some ⟨.structured value, headers⟩ => exact ⟨value.bytes, .structured rfl rfl⟩

/-- What goes out for an answer: the answer by itself, or octets that spell its envelope. Headers are
in order, as all that sets them keeps them. -/
theorem encode_encloses {response : Option Message}
    (hHeaders : ∀ answer, response = some answer → answer.headers.Sorted) (request : Message)
    (declared : Option String) :
    ∃ body output, Extracts .compact response body ∧
      (encode request response .compact declared).value = .ok output ∧
      (IsBare request declared → output = body) ∧
      (¬ IsBare request declared → ∃ fields, Json.parse output = .ok (.obj fields) ∧
        Encloses (statusFor response) (request.hasHeader Message.recordsHeader) body
          (response.map Message.headers) fields) := by
  obtain ⟨body, hExtracts⟩ := exists_extracts_compact response
  obtain ⟨hAlone, hInside⟩ := value_encode_of_extracts hExtracts request declared
  have hSorted (source : Fields Json) (hSource : response.map Message.headers = some source) :
      source.Sorted := by
    obtain ⟨answer, hAnswer, rfl⟩ := Option.map_eq_some_iff.mp hSource
    exact hHeaders answer hAnswer
  by_cases hBare : IsBare request declared
  · exact ⟨body, body, hExtracts, hAlone hBare, fun _ => rfl, fun h => absurd hBare h⟩
  · have hSpells := exists_encloses (statusFor response) (request.hasHeader Message.recordsHeader)
      body hSorted
    exact ⟨body, _, hExtracts, hInside hBare, fun h => absurd h hBare, fun _ => hSpells⟩

/-- A request from a gateway that wants the meaning of the status. -/
def inquiry : Message :=
  ⟨.raw [], [(Message.recordsHeader, .null), (Message.gatewayFlag, .bool true)]⟩

/-- An answer with a value as its payload and with headers of several kinds. -/
def mixedAnswer : Message where
  payload := .structured (.arr [.str "a\"b", .null])
  headers :=
    [("content-type", .str "text/plain"), (Message.statusHeader, .str " +404 "),
      ("x-retry", .ofNat 3)]

theorem encode_mixedAnswer : ∃ (output : Bytes) (fields texts : Fields Json),
    (encode inquiry (some mixedAnswer) .compact none).value = .ok output ∧
    Json.parse output = .ok (.obj fields) ∧
    fields.get? "statusCode" = some (.ofNat 404) ∧
    fields.get? "statusDescription" = some (.str "404 Not Found") ∧
    fields.get? "body" = some (.str "[\"a\\\"b\",null]") ∧
    fields.get? "headers" = some (.obj texts) ∧
    texts.get? "content-type" = some (.str "text/plain") ∧
    texts.get? "x-retry" = some (.str "3") := by
  have hSorted (answer : Message) (hAnswer : some mixedAnswer = some answer) :
      answer.headers.Sorted := by
    cases hAnswer
    exact Fields.sorted_of_map_fst ["content-type", "statusCode", "x-retry"] rfl (by decide)
  have hInside : ¬ IsBare inquiry none := by
    rintro (⟨name, hName, -⟩ | hUnset)
    · cases hName
    · exact hUnset rfl
  obtain ⟨body, output, hExtracts, hEncode, -, hSpells⟩ := encode_encloses hSorted inquiry none
  obtain ⟨fields, hParse, hEncloses⟩ := hSpells hInside
  obtain ⟨texts, hTexts, hSpells⟩ := hEncloses.texts mixedAnswer.headers rfl
  have hBody : body.textLossy = "[\"a\\\"b\",null]" := by
    cases hExtracts with
    | raw hPayload => cases hPayload
    | structured hPayload hOctets =>
        cases hPayload
        cases hOctets
        decide
  have hRetry := hSpells.other "x-retry" (.ofNat 3) rfl nofun
  rw [Json.text_ofNat] at hRetry
  exact ⟨output, fields, texts, hEncode, hParse, hEncloses.code, hEncloses.description rfl,
    hBody ▸ hEncloses.text, hTexts, hSpells.string _ _ rfl, hRetry⟩

end Reply

namespace Response

/-- A response states its status as a header, over any header of that name it has of its own. -/
theorem header?_toMessage_statusHeader (r : Response) :
    r.toMessage.header? Message.statusHeader = some (.ofNat r.status.code) :=
  Fields.get?_insert_self ..

theorem sorted_headers_toMessage (r : Response) : r.toMessage.headers.Sorted :=
  Fields.sorted_insert _ _ (Fields.sorted_mapValues _ r.headers.sorted)

/-- The other headers become texts, each with its values joined. -/
theorem get?_headers_toMessage {name : String} (h : name ≠ Message.statusHeader) (r : Response) :
    r.toMessage.headers.get? name =
      (r.headers.fields.get? name).map fun values => .str (joinValues values) := by
  rw [toMessage, Fields.get?_insert_of_ne h, Fields.get?_mapValues]

/-- The status of a response is never lost on the way through its message. -/
theorem value_status_toMessage (r : Response) : (Reply.status r.toMessage).value = r.status := by
  have hStatus : Http.Status.ofNat? r.status.code = some r.status := by
    simp [Http.Status.ofNat?, r.status.lower, r.status.upper]
  have hCode : (Json.ofNat r.status.code).nat? = some r.status.code := by
    simp [Json.ofNat, Json.ofInt, Json.nat?]
  have hRead : Reply.statusOf? (.ofNat r.status.code) = some r.status :=
    (congrArg (·.bind Http.Status.ofNat?) hCode).trans hStatus
  simp [Reply.status, header?_toMessage_statusHeader, hRead]

end Response

namespace Reply

/-- The octets that go out for a response: its body as it is, or inside an envelope. -/
theorem value_encode_toMessage (request : Message) (response : Response)
    (declared : Option String) :
    (encode request (some response.toMessage) .compact declared).value =
      .ok (if isFinalType declared || !request.isSet Message.gatewayFlag then response.body
        else (envelope response.status (request.hasHeader Message.recordsHeader) response.body
          (some response.toMessage.headers)).bytes) := by
  have hBody : payload .compact (some response.toMessage) = .ok response.body := rfl
  rw [value_encode, hBody, statusFor, response.value_status_toMessage]
  cases isFinalType declared || !request.isSet Message.gatewayFlag <;> rfl

/-- The headers in an envelope: for each header of the response the texts of its values, in order and
with commas between them, then the status, and nothing else. -/
structure ListsHeaders (response : Response) (headers : Fields Json) : Prop where
  sorted : headers.Sorted
  status : headers.get? Message.statusHeader = some (.str (toString response.status.code))
  values : ∀ name values, response.headers.fields.get? name = some values →
    headers.get? name =
      some (.str (String.intercalate "," (values.map fun value => value.octets.textLossy)))
  others : ∀ name, headers.contains name →
    name = Message.statusHeader ∨ response.headers.fields.contains name

/-- The headers of an envelope list those of the response it was made from. -/
theorem listsHeaders_of_spells {response : Response} {texts : Fields Json}
    (h : Spells response.toMessage.headers texts) : ListsHeaders response texts := by
  refine ⟨h.sorted, ?_, fun name values hValues => h.string name _ ?_, fun name hContains => ?_⟩
  · rw [h.other _ _ response.header?_toMessage_statusHeader nofun, Json.text_ofNat]
  · have hName : name ≠ Message.statusHeader := by
      rintro rfl
      rw [response.headers.get?_statusHeader] at hValues
      cases hValues
    rw [response.get?_headers_toMessage hName, hValues, Option.map_some, Response.joinValues]
  · by_cases hName : name = Message.statusHeader
    · exact .inl hName
    · rw [h.names, Fields.contains, response.get?_headers_toMessage hName,
        Option.isSome_map] at hContains
      exact .inr hContains

/-- Everything that a gateway reads in the envelope of a response. The meaning of the status is
there if it is `described`. -/
structure Wraps (response : Response) (described : Prop) (fields : Fields Json) : Prop where
  names : ∀ name, fields.contains name ↔
    name ∈ ["isBase64Encoded", "statusCode", "body", "headers"] ∨
      name = "statusDescription" ∧ described
  encoding : fields.get? "isBase64Encoded" = some (.bool false)
  status : fields.get? "statusCode" = some (.ofNat response.status.code)
  description : described → fields.get? "statusDescription" = some (.str response.status.text)
  body : fields.get? "body" = some (.str response.body.textLossy)
  body_ofText : ∀ text, response.body = Bytes.ofText text → fields.get? "body" = some (.str text)
  headers : ∃ headers, fields.get? "headers" = some (.obj headers) ∧ ListsHeaders response headers

/-- An envelope around the message of a response wraps the response. -/
theorem wraps_of_encloses {response : Response} {described : Prop} {fields : Fields Json}
    (h : Encloses response.status described response.body (some response.toMessage.headers)
      fields) : Wraps response described fields where
  names name := by
    have hNames := h.names name
    grind
  encoding := h.encoding
  status := h.code
  description := h.description
  body := h.text
  body_ofText text hBody := by rw [h.text, hBody, Bytes.textLossy_ofText]
  headers :=
    have ⟨texts, hTexts, hSpells⟩ := h.texts _ rfl
    ⟨texts, hTexts, listsHeaders_of_spells hSpells⟩

/-- What is written for the envelope of a response spells the envelope. -/
theorem exists_wraps (response : Response) (describe : Bool) :
    ∃ fields, Json.parse (envelope response.status describe response.body
        (some response.toMessage.headers)).bytes = .ok (.obj fields) ∧
      Wraps response (describe = true) fields := by
  have hSorted (source : Fields Json) (hSource : some response.toMessage.headers = some source) :
      source.Sorted := Option.some.inj hSource ▸ response.sorted_headers_toMessage
  obtain ⟨fields, hParse, hEncloses⟩ :=
    exists_encloses response.status describe response.body hSorted
  exact ⟨fields, hParse, wraps_of_encloses hEncloses⟩

end Reply

end InvocationBridge
