import InvocationBridge.Proofs.Function.EventPost
import InvocationBridge.Proofs.Message.Markers
import InvocationBridge.Proofs.Web.EventFormats

/-!
Payloads that get the same answer.

All that an invocation makes of a payload is the request for the application and two headers of the
message. `result_invoke_congr` says so, and `formats_agree` what follows for the formats of events.
How a text spells a gateway request makes no difference at all.
-/

namespace InvocationBridge.Deployment

open GatewayEvent

variable {σ H : Type}

/-- Of the message, an answer only depends on the flag and on whether there is a
header for records. -/
theorem value_answer_congr {request other : Message}
    (hFlag : other.isSet Message.gatewayFlag = request.isSet Message.gatewayFlag)
    (hRecords : other.hasHeader Message.recordsHeader = request.hasHeader Message.recordsHeader)
    (d : Deployment σ H) (response : Response) :
    (d.answer other response).value = (d.answer request response).value := by
  have hEncode := Reply.value_encode_congr hFlag hRecords (some response.toMessage) .compact
    d.settings.outputType
  unfold answer
  cases hSet : request.isSet Message.gatewayFlag <;> cases response.failure <;>
    simp [hFlag, hSet, hEncode]

/-- Payloads that make the same request are dispatched alike. The octets they came in do not
matter, nor do the lines that are logged while the request is made. -/
theorem result_dispatch_congr {d : Deployment σ H} {raw other : Bytes} {payload decoded : Json}
    (hRequest : (d.requestFor other decoded).value = (d.requestFor raw payload).value) (s : σ) :
    (d.dispatch other decoded).result s = (d.dispatch raw payload).result s := by
  unfold dispatch
  cases hValue : (d.requestFor raw payload).value <;> simp [hRequest, hValue]

/-- Two payloads that the application treats alike get the same answer, if they agree on the flag of
a gateway and on having records. -/
theorem result_invoke_congr {d : Deployment σ H} {raw other : Bytes} {payload decoded : Json}
    {context given : Json} {s : σ} (hParse : Json.parse raw = .ok payload)
    (hOther : Json.parse other = .ok decoded)
    (hDispatch : (d.dispatch other decoded).result s = (d.dispatch raw payload).result s)
    (hFlag : (d.intake.messageOf other decoded given).header? Message.gatewayFlag =
      (d.intake.messageOf raw payload context).header? Message.gatewayFlag)
    (hRecords : (d.intake.messageOf other decoded given).header? Message.recordsHeader =
      (d.intake.messageOf raw payload context).header? Message.recordsHeader) :
    (d.invoke other (.ok given)).result s = (d.invoke raw (.ok context)).result s := by
  have hSet : (d.intake.messageOf other decoded given).isSet Message.gatewayFlag =
      (d.intake.messageOf raw payload context).isSet Message.gatewayFlag := by
    rw [Message.isSet, Message.isSet, hFlag]
  have hHas : (d.intake.messageOf other decoded given).hasHeader Message.recordsHeader =
      (d.intake.messageOf raw payload context).hasHeader Message.recordsHeader := by
    rw [Message.hasHeader, Message.hasHeader, hRecords]
  rw [result_invoke_of_parse hParse, result_invoke_of_parse hOther, hDispatch]
  simp only [value_answer_congr hSet hHas]

/-- Two texts of one payload get the same answer in any two contexts, if the application treats them
alike. -/
theorem result_invoke_of_same_payload {d : Deployment σ H} {raw other : Bytes} {payload : Json}
    {s : σ} (hParse : Json.parse raw = .ok payload) (hOther : Json.parse other = .ok payload)
    (hDispatch : (d.dispatch other payload).result s = (d.dispatch raw payload).result s)
    (context given : Json) :
    (d.invoke other (.ok given)).result s = (d.invoke raw (.ok context)).result s :=
  have hHeader {name : String} (hName : name ≠ Message.contextHeader) :=
    Intake.header?_messageOf (Json.ordered_of_parse hParse) d.intake raw other context given hName
  result_invoke_congr hParse hOther hDispatch (hHeader (by decide)) (hHeader (by decide))

/-- For events of a gateway only the decoded value counts. -/
theorem result_dispatch_of_isGatewayRequest {payload : Json} (h : isGatewayRequest payload = true)
    (d : Deployment σ H) (raw other : Bytes) (s : σ) :
    (d.dispatch other payload).result s = (d.dispatch raw payload).result s := by
  apply result_dispatch_congr
  rw [requestFor_of_isGatewayRequest h, requestFor_of_isGatewayRequest h]

/-- Events of the flat format are recognized by their method. -/
theorem isGatewayRequest_of_isFlat {call : Call} {event : Json} (h : call.IsFlat event) :
    isGatewayRequest event = true := by
  simp [isGatewayRequest, Json.hasField, h.method]

/-- Events of the nested format are recognized by their route key and version. -/
theorem isGatewayRequest_of_isNested {call : Call} {event : Json} (h : call.IsNested event) :
    isGatewayRequest event = true := by
  simp [isGatewayRequest, h.version, h.route]

/-- Both formats of one call have the same answer, and leave the same state behind. -/
theorem result_invoke_of_formats {call : Call} {flat nested : Json} (hFlat : call.IsFlat flat)
    (hNested : call.IsNested nested) {raw other : Bytes} (hParse : Json.parse raw = .ok flat)
    (hOther : Json.parse other = .ok nested) (d : Deployment σ H)
    (context : Except Json.Error Json) (s : σ) :
    (d.invoke other context).result s = (d.invoke raw context).result s := by
  cases context with
  | error cause => rfl
  | ok given =>
      have hShape := isGatewayRequest_of_isFlat hFlat
      have hShape' := isGatewayRequest_of_isNested hNested
      have hHeaders := Intake.headers_messageOf_congr (hNested.headers.trans hFlat.headers.symm)
        (hShape'.trans hShape.symm) d.intake raw other given
      have hRequest : (d.requestFor other nested).value = (d.requestFor raw flat).value := by
        rw [requestFor_of_isGatewayRequest hShape, requestFor_of_isGatewayRequest hShape',
          toRequest_eq_of_formats hFlat hNested]
      apply result_invoke_congr hParse hOther (result_dispatch_congr hRequest s)
      · rw [Message.header?, Message.header?, hHeaders]
      · rw [Message.header?, Message.header?, hHeaders]

/-- Both formats of a call come to the same request, or to the same bad request, and get the same
answer from every deployment, which they leave in the same state. Lists with one value each come to
the same request as the values. For parameters that takes an event in which no object has a name
twice, as none has that was read: single parameters are set and those in lists are added. -/
theorem formats_agree {call : Call} {flat nested : Json} (hFlat : call.IsFlat flat)
    (hNested : call.IsNested nested) :
    toRequest nested = toRequest flat ∧
    (∀ failure, (toRequest flat).value = .error failure →
      ∃ message, failure = .badRequest message) ∧
    (∀ {σ H : Type} (d : Deployment σ H) (raw other : Bytes), Json.parse raw = .ok flat →
      Json.parse other = .ok nested → ∀ (context : Except Json.Error Json) (s : σ),
        (d.invoke other context).result s = (d.invoke raw context).result s) ∧
    (∀ event spread, event.Ordered →
      Spreads "multiValueQueryStringParameters" "queryStringParameters" event spread →
        toRequest spread = toRequest event) ∧
    ∀ event spread, Spreads "multiValueHeaders" "headers" event spread →
      toRequest spread = toRequest event := by
  refine ⟨(toRequest_eq_of_formats hFlat hNested).symm, fun _ => exists_badRequest, ?_,
    fun _ _ => toRequest_eq_of_spreads_query, fun _ _ => toRequest_eq_of_spreads_headers⟩
  intro σ H d raw other hParse hOther
  exact result_invoke_of_formats hFlat hNested hParse hOther d

/-- A call with a header name in two spellings and one that is no name in HTTP. -/
def petSearch : Call where
  method := "GET"
  path := "/pets"
  query := some [("kind", "cat")]
  headers := some [("Accept", "text/html"), ("accept", "text/plain"), ("bad name", "")]
  body := some "e30="
  encoded := some true

theorem isOrdered_petSearch : petSearch.IsOrdered where
  query := by
    rintro _ ⟨⟩
    exact List.pairwise_singleton ..
  headers := by
    rintro _ ⟨⟩
    exact Fields.sorted_of_map_fst ["Accept", "accept", "bad name"] rfl (by decide)

/-- A request with nothing but a table under a name. -/
def readWith (name : String) (table : Fields Json) : Json :=
  .obj (Fields.insert name (.obj table) [("httpMethod", .str "GET")])

/-- Each value of a table in a list of its own. -/
def inLists (table : Fields Json) : Fields Json := table.mapValues fun v => .arr [v]

/-- Two parameters with a text and one without. -/
def filters : Fields Json := [("kind", .str "cat"), ("limit", .str "5"), ("tags", .null)]

/-- One header in two spellings. -/
def tastes : Fields Json := [("Accept", .str "*/*"), ("accept", .str "text/plain")]

theorem ordered_readWith_filters : (readWith "queryStringParameters" filters).Ordered := by
  have hFilters : (Json.obj filters).Ordered :=
    .obj (Fields.sorted_of_map_fst ["kind", "limit", "tags"] rfl (by decide))
      (by simp [filters, Json.Ordered.str, Json.Ordered.null])
  have hFields : Fields.insert "queryStringParameters" (Json.obj filters)
      [("httpMethod", .str "GET")] =
        [("httpMethod", .str "GET"), ("queryStringParameters", .obj filters)] := rfl
  rw [readWith, hFields]
  exact .obj (Fields.sorted_of_map_fst ["httpMethod", "queryStringParameters"] rfl (by decide))
    (by simp [Json.Ordered.str, hFilters])

theorem formats_agree_petSearch :
    (echoing.invoke petSearch.nested.bytes (.ok .null)).result () =
      (echoing.invoke petSearch.flat.bytes (.ok .null)).result () ∧
    toRequest (readWith "multiValueQueryStringParameters" (inLists filters)) =
      toRequest (readWith "queryStringParameters" filters) ∧
    (toRequest (readWith "queryStringParameters" filters)).value.map Request.query =
      .ok [("kind", ["cat"]), ("limit", ["5"])] ∧
    toRequest (readWith "multiValueHeaders" (inLists tastes)) =
      toRequest (readWith "headers" tastes) := by
  obtain ⟨-, -, hInvoke, hQuery, hHeaders⟩ :=
    formats_agree petSearch.isFlat_flat petSearch.isNested_nested
  have hOrdered := isOrdered_petSearch
  refine ⟨hInvoke echoing _ _ (Call.parse_flat hOrdered) (Call.parse_nested hOrdered) _ (), ?_,
    rfl, ?_⟩
  · exact hQuery _ _ ordered_readWith_filters (spreads_insert (by decide) rfl filters)
  · exact hHeaders _ _ (spreads_insert (by decide) rfl tastes)

/-- What comes of a gateway request depends on the payload that its text spells and on nothing else:
neither on how the text spells it, nor on the context. -/
theorem invoke_eq_of_meaning {payload : Json} (hShape : isGatewayRequest payload = true)
    {raw other : Bytes} (hParse : Json.parse raw = .ok payload)
    (hOther : Json.parse other = .ok payload) (d : Deployment σ H) (context given : Json) (s : σ) :
    (d.invoke other (.ok given)).result s = (d.invoke raw (.ok context)).result s :=
  have hDispatch := result_dispatch_of_isGatewayRequest hShape d raw other s
  result_invoke_of_same_payload hParse hOther hDispatch context given

/-- The fields of a gateway request out of order, the path twice. -/
def hastyRequest : Json :=
  .obj [("path", .str "/pets"), ("path", .str "/"), ("httpMethod", .str "GET")]

theorem parse_hastyRequest : Json.parse hastyRequest.bytes = .ok rootRequest :=
  Json.parse_bytes_obj (by simp [Json.Plain.str])

theorem invoke_hastyRequest :
    (echoing.invoke hastyRequest.bytes (.ok (.str "later"))).result () =
      (echoing.invoke rootRequest.bytes (.ok .null)).result () :=
  invoke_eq_of_meaning rfl parse_rootRequest parse_hastyRequest echoing .null (.str "later") ()

end InvocationBridge.Deployment
