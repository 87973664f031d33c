import InvocationBridge.Proofs.Event.TypeNames
import InvocationBridge.Proofs.Message.Envelope
import InvocationBridge.Proofs.Numeral

/-!
The status that an envelope states, and the header that it comes from.

`Gives` says which header values stand for a number. If that has three digits, it is the status, and
in every other case the status is 200. A numeral that is too long for a word is no number at all, so
that none of the others passes for a status.
-/

namespace InvocationBridge

/-- A number becomes the status whose code it is, if there is one. -/
theorem Http.Status.ofNat?_eq_some_iff {n : Nat} {status : Status} :
    ofNat? n = some status ↔ status.code = n := by
  obtain ⟨code, lower, upper⟩ := status
  unfold ofNat?
  constructor
  · intro h
    split at h
    · cases h
      rfl
    · cases h
  · rintro rfl
    exact dif_pos ⟨lower, upper⟩

theorem Text.not_isBlank_of_isDigit {c : Char} (h : c.isDigit) : ¬isBlank c := by
  have hBounds : 0x30 ≤ c.toNat ∧ c.toNat ≤ 0x39 := by
    simpa [Char.isDigit, UInt32.le_iff_toNat_le] using h
  simp only [isBlank, Bool.or_eq_true, Bool.and_eq_true, decide_eq_true_eq, beq_iff_eq]
  omega

namespace Reply

/-- The number that the value of a header stands for, as an integer or as a string of a numeral with
blanks around it. -/
inductive Gives : Json → Nat → Prop where
  | integer (n : Nat) : Gives (.ofNat n) n
  | numeral {s : String} {before numeral after digits : List Char} {n : Nat}
      (hText : s.toList = before ++ numeral ++ after) (hBefore : TypeName.IsBlank before)
      (hAfter : TypeName.IsBlank after) (hHolds : Numeral.Holds numeral digits)
      (hSpells : Numeral.Spells digits n) : Gives (.str s) n

/-- An answer that asks for a status by its header. -/
structure Asks (response : Option Message) (n : Nat) : Prop where
  header : ∃ answer value, response = some answer ∧
    answer.header? Message.statusHeader = some value ∧ Gives value n
  lower : 100 ≤ n
  upper : n ≤ 999

/-- A numeral has no blanks inside, so that trimming finds both its ends. -/
theorem not_isBlank_of_holds {numeral digits : List Char} {n : Nat}
    (hHolds : Numeral.Holds numeral digits) (hSpells : Numeral.Spells digits n) :
    ∀ c ∈ numeral, ¬Text.isBlank c := by
  have hDigits : ∀ c ∈ digits, ¬Text.isBlank c := by
    intro c hc
    exact Text.not_isBlank_of_isDigit (hSpells.isDigit c hc)
  rcases hHolds with rfl | rfl
  · exact hDigits
  · exact List.forall_mem_cons.mpr ⟨by decide, hDigits⟩

/-- A string stands for a number if that is what is left of it after trimming. -/
theorem gives_str_iff {s : String} {n : Nat} :
    Gives (.str s) n ↔
      ∃ digits, Numeral.Holds (Text.trimmed s.toList) digits ∧ Numeral.Spells digits n := by
  constructor
  · intro h
    cases h with
    | numeral hText hBefore hAfter hHolds hSpells =>
        have hInk := not_isBlank_of_holds hHolds hSpells
        rw [hText, TypeName.trimmed_append hBefore hAfter
          (fun c hc => hInk c (List.mem_of_mem_head? hc))
          (fun c hc => hInk c (List.mem_of_mem_getLast? hc))]
        exact ⟨_, hHolds, hSpells⟩
  · intro ⟨digits, hHolds, hSpells⟩
    obtain ⟨before, after, hText, hBefore, hAfter⟩ :=
      TypeName.exists_eq_append_trimmed s.toList
    exact .numeral hText hBefore hAfter hHolds hSpells

/-- Of the numbers, only the integers that are not negative give a status. -/
theorem gives_num_iff {number : Number} {n : Nat} :
    Gives (.num number) n ↔ (Json.num number).nat? = some n := by
  constructor
  · rintro ⟨⟩
    simp [Json.nat?]
  · intro h
    cases number with
    | float x => cases h
    | int i =>
        obtain ⟨hSign, hValue⟩ := Option.ite_none_right_eq_some.mp h
        cases hValue
        have hNat : (i.toNat : Int) = i := Int.toNat_of_nonneg hSign
        have hGives := Gives.integer i.toNat
        rwa [Json.ofNat, Json.ofInt, hNat] at hGives

/-- A header value makes a status if it stands for a number of three digits. A number that does not
fit a word has more. -/
theorem statusOf?_eq_some_iff {value : Json} {status : Http.Status} :
    statusOf? value = some status ↔ Gives value status.code := by
  unfold statusOf?
  simp only [Option.bind_eq_some_iff, Http.Status.ofNat?_eq_some_iff, exists_eq_right']
  cases value with
  | str s =>
      -- Three digits fit a word, so the bound of the numeral keeps out no status.
      have hBound : status.code < UInt16.size := Nat.lt_of_le_of_lt status.upper (by decide)
      simp only [Numeral.parse?_eq_some_iff, gives_str_iff, hBound, and_true]
  | num number => exact gives_num_iff.symm
  | _ => exact iff_of_false nofun nofun

/-- A status that is asked for is granted. -/
theorem code_statusFor_of_asks {response : Option Message} {n : Nat} (h : Asks response n) :
    (statusFor response).code = n := by
  obtain ⟨answer, value, rfl, hHeader, hGives⟩ := h.header
  have hStatus : statusOf? value = some ⟨n, h.lower, h.upper⟩ := statusOf?_eq_some_iff.mpr hGives
  simp [statusFor, status, hHeader, hStatus]

/-- Whatever else the header holds, the status falls back to 200. -/
theorem statusFor_eq_ok_of_not_asks {response : Option Message} (h : ∀ n, ¬Asks response n) :
    statusFor response = .ok := by
  cases response with
  | none => rfl
  | some answer =>
      cases hHeader : answer.header? Message.statusHeader with
      | none => simp [statusFor, status, hHeader]
      | some value =>
          cases hStatus : statusOf? value with
          | none => simp [statusFor, status, hHeader, hStatus]
          | some status =>
              have hGives := statusOf?_eq_some_iff.mp hStatus
              exact absurd ⟨⟨answer, value, rfl, hHeader, hGives⟩, status.lower, status.upper⟩
                (h status.code)

/-- An envelope that states a code, and its meaning after the code if that is `described`. -/
structure States (code : Nat) (described : Prop) (fields : Fields Json) : Prop where
  number : fields.get? "statusCode" = some (.ofNat code)
  described : fields.contains "statusDescription" ↔ described
  description : ∀ value, fields.get? "statusDescription" = some value →
    ∃ meaning, value = .str (toString code ++ " " ++ meaning)

/-- The envelope states the code of the status, and describes it if asked to. -/
theorem states_envelope (status : Http.Status) (describe : Bool) (body : Bytes)
    (headers : Option (Fields Json)) :
    ∃ fields, envelope status describe body headers = .obj fields ∧
      States status.code (describe = true) fields := by
  refine ⟨_, envelope_eq .., ?_, ?_, ?_⟩
  · cases headers <;> rfl
  · cases describe <;> cases headers <;> simp [Fields.contains, Fields.get?]
  · intro value hValue
    have hText : value = .str status.text := by
      cases describe <;> cases headers <;> simp_all [Fields.get?]
    rw [hText]
    exact ⟨_, rfl⟩

/-- The status in an envelope is the one that the answer asks for by a number of three digits, and
otherwise 200. The meaning of the status, where it is given, starts with the same number. -/
theorem encode_states {request : Message} {declared : Option String}
    (hInside : ¬IsBare request declared) (response : Option Message) :
    ∃ code, (∀ n, Asks response n → code = n) ∧ ((∀ n, ¬Asks response n) → code = 200) ∧
      100 ≤ code ∧ code ≤ 999 ∧
      (∀ codec body, Extracts codec response body → ∃ fields,
        (encode request response codec declared).value = (codec.encode (.obj fields)).mapError
          (.invalidState "Failed to serialize AWS Lambda output") ∧
        States code (request.hasHeader Message.recordsHeader) fields) ∧
      ((∀ answer, response = some answer → answer.headers.Sorted) → ∃ output fields,
        (encode request response .compact declared).value = .ok output ∧
        Json.parse output = .ok (.obj fields) ∧
        States code (request.hasHeader Message.recordsHeader) fields) := by
  refine ⟨(statusFor response).code, fun n => code_statusFor_of_asks, fun hNone => ?_,
    (statusFor response).lower, (statusFor response).upper, ?_, ?_⟩
  · rw [statusFor_eq_ok_of_not_asks hNone]
    rfl
  · intro codec body hExtracts
    obtain ⟨fields, hEnvelope, hStates⟩ := states_envelope (statusFor response)
      (request.hasHeader Message.recordsHeader) body (response.map Message.headers)
    refine ⟨fields, ?_, hStates⟩
    rw [(value_encode_of_extracts hExtracts request declared).2 hInside, hEnvelope]
  · intro hHeaders
    obtain ⟨body, hExtracts⟩ := exists_extracts_compact response
    obtain ⟨fields, hEnvelope, hStates⟩ := states_envelope (statusFor response)
      (request.hasHeader Message.recordsHeader) body (response.map Message.headers)
    have hSorted : ∀ source, response.map Message.headers = some source → source.Sorted := by
      intro source hSource
      obtain ⟨answer, hAnswer, rfl⟩ := Option.map_eq_some_iff.mp hSource
      exact hHeaders answer hAnswer
    have hParse := Json.parse_bytes (plain_envelope (statusFor response)
      (request.hasHeader Message.recordsHeader) body hSorted 125)
    refine ⟨_, fields, (value_encode_of_extracts hExtracts request declared).2 hInside, ?_, hStates⟩
    rwa [hEnvelope] at hParse ⊢

/-- An answer with a text for its status. -/
def stated (text : String) : Message := ⟨.raw [], [(Message.statusHeader, .str text)]⟩

theorem asks_stated_padded : Asks (some (stated " +00404\u2003")) 404 where
  header := ⟨_, _, rfl, rfl, gives_str_iff.mpr ⟨"00404".toList, .inr (by decide), by decide⟩⟩
  lower := by decide
  upper := by decide

/-- A number that is 404 in a word of sixteen bits is another number. -/
theorem not_asks_stated_wide (n : Nat) : ¬Asks (some (stated "65940")) n := by
  intro hAsks
  obtain ⟨answer, value, hAnswer, hHeader, hGives⟩ := hAsks.header
  cases hAnswer
  cases hHeader
  obtain ⟨digits, hHolds, hSpells⟩ := gives_str_iff.mp hGives
  have hNumber : Numeral.Spells (Text.trimmed "65940".toList) 65940 := by decide
  have hUpper := hAsks.upper
  rw [← hHolds.eq_of_unsigned (by decide)] at hSpells
  rw [← hNumber.unique hSpells] at hUpper
  exact absurd hUpper (by decide)

theorem encode_states_stated : ∃ (output other : Bytes) (fields others : Fields Json),
    (encode inquiry (some (stated " +00404\u2003")) .compact none).value = .ok output ∧
    Json.parse output = .ok (.obj fields) ∧
    fields.get? "statusCode" = some (.ofNat 404) ∧
    (encode inquiry (some (stated "65940")) .compact none).value = .ok other ∧
    Json.parse other = .ok (.obj others) ∧
    others.get? "statusCode" = some (.ofNat 200) := by
  have hInside : ¬IsBare inquiry none := by
    rintro (⟨name, hName, -⟩ | hUnset)
    · cases hName
    · exact hUnset rfl
  have hSorted (text : String) (answer : Message) (hAnswer : some (stated text) = some answer) :
      answer.headers.Sorted := by
    cases hAnswer
    exact List.pairwise_singleton ..
  obtain ⟨code, hCode, -, -, -, -, hWritten⟩ :=
    encode_states hInside (some (stated " +00404\u2003"))
  obtain ⟨otherCode, -, hUsual, -, -, -, hOthers⟩ := encode_states hInside (some (stated "65940"))
  obtain ⟨output, fields, hOutput, hParse, hStates⟩ := hWritten (hSorted _)
  obtain ⟨other, others, hOther, hOtherParse, hOtherStates⟩ := hOthers (hSorted _)
  have hNumber := hStates.number
  have hOtherNumber := hOtherStates.number
  rw [hCode 404 asks_stated_padded] at hNumber
  rw [hUsual not_asks_stated_wide] at hOtherNumber
  exact ⟨output, other, fields, others, hOutput, hParse, hNumber, hOther, hOtherParse, hOtherNumber⟩

end Reply

end InvocationBridge
