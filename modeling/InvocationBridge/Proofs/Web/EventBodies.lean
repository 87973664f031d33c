import InvocationBridge.Proofs.Web.Acceptance

/-!
Bodies that travel in Base64.

Any octets can be the body of an event, and no body that is accepted was written in another way. A
text comes to the same whether it stands in the event itself or its octets do.
-/

namespace InvocationBridge.GatewayEvent

/-- An event whose body is due to be octets in Base64, and the text that it has there. -/
structure Uploads (event : Json) (text : String) : Prop where
  body : event.field? "body" = some (.str text)
  encoded : event.field? "isBase64Encoded" = some (.bool true)

/-- An event whose body is the text that it has there. -/
structure Tells (event : Json) (text : String) : Prop where
  body : event.field? "body" = some (.str text)
  plain : event.field? "isBase64Encoded" ≠ some (.bool true)

/-- Events that are alike but for the body and the way it is written. -/
def AlikeButBody (event other : Json) : Prop :=
  ∀ name, name ≠ "body" → name ≠ "isBase64Encoded" → event.field? name = other.field? name

/-- The event with these fields, and a body and a flag for the way that it is written. -/
def bearing (fields : Fields Json) (body encoded : Json) : Json :=
  .obj ((fields.insert "body" body).insert "isBase64Encoded" encoded)

/-- Another body in the same event makes an event that is alike in everything else. -/
theorem alikeButBody_bearing (fields : Fields Json) (body encoded body' encoded' : Json) :
    AlikeButBody (bearing fields body encoded) (bearing fields body' encoded') := by
  intro name hBody hEncoded
  simp only [bearing, Json.field?, Fields.get?_insert_of_ne hEncoded,
    Fields.get?_insert_of_ne hBody]

variable {event : Json} {text : String}

/-- An event carries one body only. -/
theorem Carries.unique {octets others : Bytes} (h : Carries event octets)
    (hOthers : Carries event others) : octets = others :=
  Except.ok.inj ((body_eq_ok_iff.mpr h).symm.trans (body_eq_ok_iff.mpr hOthers))

/-- Under the flag, a text carries the octets that it is the encoding of, if there are any. -/
theorem Uploads.carries_iff (h : Uploads event text) {octets : Bytes} :
    Carries event octets ↔ text = Base64.text octets := by
  constructor
  · intro hCarries
    cases hCarries with
    | nothing hNone => exact absurd h.body (hNone text)
    | plain _ hPlain => exact absurd h.encoded hPlain
    | encoded hText _ hOctets =>
        rw [h.body] at hText
        cases hText
        exact Base64.ofText_eq_encode_iff.mp hOctets
  · intro hText
    exact .encoded h.body h.encoded (Base64.ofText_eq_encode_iff.mpr hText)

theorem Tells.carries (h : Tells event text) : Carries event (Bytes.ofText text) :=
  .plain h.body h.plain

/-- Events that are alike but for the body, and carry the same octets in it, make one request. -/
theorem toRequest_eq_of_carries {other : Json} {octets : Bytes} (hAlike : AlikeButBody event other)
    (hEvent : Carries event octets) (hOther : Carries other octets) :
    toRequest event = toRequest other := by
  apply toRequest_congr_of_places
  · intro name hName
    apply hAlike name <;> (rintro rfl; simp at hName)
  · intro r _
    exact withQuery_congr (hAlike _ (by decide) (by decide)) (hAlike _ (by decide) (by decide)) r
  · exact settings_congr (hAlike _ (by decide) (by decide)) (hAlike _ (by decide) (by decide))
  · rw [body_eq_ok_iff.mpr hEvent, body_eq_ok_iff.mpr hOther]

/-- Octets that an event has in Base64 arrive as they are, and no text is accepted but the Base64 of
what arrives. For the octets of a text, the event that has the text itself makes the same request. -/
theorem toRequest_uploads (event : Json) :
    (∀ octets, Uploads event (Base64.text octets) →
      (∃ method : Http.Method, FirstAt methodPlaces event (.str method.name)) →
      ∃ request, (toRequest event).value = .ok request ∧ request.body = octets) ∧
    (∀ text request, Uploads event text → (toRequest event).value = .ok request →
      text = Base64.text request.body) ∧
    ∀ text plain, Uploads event (Base64.text (Bytes.ofText text)) → Tells plain text →
      AlikeButBody event plain → toRequest event = toRequest plain := by
  refine ⟨fun octets hUploads hMethod => ?_, fun text request hUploads hRequest => ?_,
    fun text plain hUploads hTells hAlike => ?_⟩
  · have hCarries := hUploads.carries_iff.mpr rfl
    obtain ⟨request, hRequest⟩ := (exists_request_iff event).mpr ⟨hMethod, octets, hCarries⟩
    have hBody := (describes_of_toRequest_eq hRequest).body
    exact ⟨request, hRequest, hBody.unique hCarries⟩
  · exact hUploads.carries_iff.mp (describes_of_toRequest_eq hRequest).body
  · exact toRequest_eq_of_carries hAlike (hUploads.carries_iff.mpr rfl) hTells.carries

/-- The octets of a text that is not ASCII, in Base64. -/
def encodedNote : Json := bearing [("httpMethod", .str "PUT")] (.str "w6nigqw=") (.bool true)

/-- The text itself, with a flag that is no Boolean. -/
def plainNote : Json := bearing [("httpMethod", .str "PUT")] (.str "é€") (.str "true")

theorem toRequest_encodedNote :
    ∃ request, (toRequest encodedNote).value = .ok request ∧
      request.body = [0xC3, 0xA9, 0xE2, 0x82, 0xAC] ∧ "w6nigqw=" = Base64.text request.body ∧
      toRequest encodedNote = toRequest plainNote := by
  obtain ⟨hAccepts, hWritten, hAgree⟩ := toRequest_uploads encodedNote
  have hUploads : Uploads encodedNote "w6nigqw=" := ⟨rfl, rfl⟩
  have hTells : Tells plainNote "é€" := ⟨rfl, nofun⟩
  have hAlike : AlikeButBody encodedNote plainNote := alikeButBody_bearing _ _ _ _ _
  have hMethod : FirstAt methodPlaces encodedNote (.str "PUT") := firstAt_iff.mpr rfl
  obtain ⟨request, hRequest, hBody⟩ :=
    hAccepts [0xC3, 0xA9, 0xE2, 0x82, 0xAC] hUploads ⟨⟨"PUT", rfl⟩, hMethod⟩
  exact ⟨request, hRequest, hBody, hWritten _ _ hUploads hRequest,
    hAgree "é€" plainNote hUploads hTells hAlike⟩

end InvocationBridge.GatewayEvent
