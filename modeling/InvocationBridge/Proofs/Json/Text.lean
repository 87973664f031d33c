import InvocationBridge.Json.Reader.Text
import InvocationBridge.Proofs.Hex

/-!
Strings written with their escapes read back, whatever comes after the closing quote.
-/

namespace InvocationBridge.Json.Reader

theorem stringOctets_letter {e octet : UInt8} (h : escape? e = some octet) (rest : Bytes) :
    stringOctets (0x5C :: e :: rest) =
      (stringOctets rest).map fun (s, rest) => (octet :: s, rest) := by
  rw [stringOctets.eq_def]
  simp [h]

theorem stringOctets_plain {b : UInt8} (hQuote : b ≠ 0x22) (hBackslash : b ≠ 0x5C)
    (hControl : ¬ b < 0x20) (rest : Bytes) :
    stringOctets (b :: rest) = (stringOctets rest).map fun (s, rest) => (b :: s, rest) := by
  rw [stringOctets.eq_def]
  simp [hQuote, hBackslash, hControl]

/-- Four hexadecimal digits stand for a scalar below the surrogates, which is all that is
ever written. -/
theorem stringOctets_unicode {h₁ h₂ h₃ h₄ : UInt8} {n : Nat} (hHex : hex4? h₁ h₂ h₃ h₄ = some n)
    (hBelow : n < 0xD800) (rest : Bytes) :
    stringOctets (0x5C :: 0x75 :: h₁ :: h₂ :: h₃ :: h₄ :: rest) =
      (stringOctets rest).map fun (s, rest) =>
        (Utf8.encodeChar (Char.ofNat n) ++ s, rest) := by
  have hLow : isLowSurrogate n = false := by simp [isLowSurrogate]; omega
  have hHigh : isHighSurrogate n = false := by simp [isHighSurrogate]; omega
  have hLetter : escape? 0x75 = none := by decide
  rw [stringOctets.eq_def]
  simp [hHex, hLow, hHigh, hLetter]

/-- Octets that need no escape stay as they are. -/
theorem stringOctets_append (octets rest : Bytes)
    (h : ∀ b ∈ octets, b ≠ 0x22 ∧ b ≠ 0x5C ∧ ¬ b < 0x20) :
    stringOctets (octets ++ rest) =
      (stringOctets rest).map fun (s, rest) => (octets ++ s, rest) := by
  induction octets with
  | nil => cases hRest : stringOctets rest <;> simp [Except.map, hRest]
  | cons b octets ih =>
      obtain ⟨⟨hQuote, hBackslash, hControl⟩, hOctets⟩ := List.forall_mem_cons.mp h
      rw [List.cons_append, stringOctets_plain hQuote hBackslash hControl, ih hOctets]
      cases stringOctets rest <;> rfl

/-- The digits in the escape of a control character read back as its code. -/
theorem hex4?_control : ∀ n < 0x20,
    hex4? 0x30 0x30 (Hex.digit (n / 16)).toNat.toUInt8 (Hex.digit (n % 16)).toNat.toUInt8 =
      some n := by decide

theorem stringOctets_letter_append {c letter : Char} (hLetter : letter.toNat < 0x80)
    (h : escape? letter.toNat.toUInt8 = some c.toNat.toUInt8) (hChar : c.toNat < 0x80)
    (rest : Bytes) :
    stringOctets (Utf8.encode ['\\', letter] ++ rest) =
      (stringOctets rest).map fun (s, rest) => (Utf8.encodeChar c ++ s, rest) := by
  rw [Utf8.encodeChar_of_lt hChar]
  simpa [Utf8.encodeChar_of_lt hLetter, Utf8.encodeChar_of_lt (c := '\\') (by decide)] using
    stringOctets_letter h rest

theorem stringOctets_control_append {c : Char} (h : c.toNat < 0x20) (rest : Bytes) :
    stringOctets (Utf8.encode
      ['\\', 'u', '0', '0', Hex.digit (c.toNat / 16), Hex.digit (c.toNat % 16)] ++ rest) =
      (stringOctets rest).map fun (s, rest) => (Utf8.encodeChar c ++ s, rest) := by
  have hHigh := Hex.toNat_digit_lt (show c.toNat / 16 < 16 by omega)
  have hLow := Hex.toNat_digit_lt (show c.toNat % 16 < 16 by omega)
  have hRead := stringOctets_unicode (hex4?_control c.toNat h) (by omega) rest
  rw [Char.ofNat_toNat] at hRead
  simpa [Utf8.encodeChar_of_lt hHigh, Utf8.encodeChar_of_lt hLow,
    Utf8.encodeChar_of_lt (c := '\\') (by decide), Utf8.encodeChar_of_lt (c := 'u') (by decide),
    Utf8.encodeChar_of_lt (c := '0') (by decide)] using hRead

/-- The bytes of an unescaped character are all read as they are. A byte beyond ASCII never looks
like a quote, a backslash or a control character. -/
theorem needsNoEscape {c : Char} (hQuote : c ≠ '"') (hBackslash : c ≠ '\\')
    (hControl : ¬ c.toNat < 0x20) {b : UInt8} (hMem : b ∈ Utf8.encodeChar c) :
    b ≠ 0x22 ∧ b ≠ 0x5C ∧ ¬ b < 0x20 := by
  rw [UInt8.lt_iff_toNat_lt, Ne, Ne, ← UInt8.toNat_inj, ← UInt8.toNat_inj]
  simp only [UInt8.reduceToNat]
  by_cases hAscii : c.toNat < 0x80
  · rw [Utf8.encodeChar_of_lt hAscii, List.mem_singleton] at hMem
    have hNat : b.toNat = c.toNat := by rw [hMem, Utf8.toNat_toUInt8 (by omega)]
    have hNotQuote : c.toNat ≠ 0x22 := fun h => hQuote (Char.toNat_inj.mp h)
    have hNotBackslash : c.toNat ≠ 0x5C := fun h => hBackslash (Char.toNat_inj.mp h)
    omega
  · have := Utf8.le_of_mem_encodeChar (by omega) hMem
    omega

/-- One character is read back from what is written for it. -/
theorem stringOctets_escapedChar_append (c : Char) (rest : Bytes) :
    stringOctets (Utf8.encode (escapedChar c) ++ rest) =
      (stringOctets rest).map fun (s, rest) => (Utf8.encodeChar c ++ s, rest) := by
  unfold escapedChar
  -- seven characters have a letter of their own
  iterate 7
    split
    · next h =>
        subst h
        exact stringOctets_letter_append (by decide) (by decide) (by decide) rest
  split
  · next hControl => exact stringOctets_control_append hControl rest
  · next hQuote hBackslash _ _ _ _ _ hControl =>
      simpa using stringOctets_append (Utf8.encodeChar c) rest
        fun b => needsNoEscape hQuote hBackslash hControl

/-- An escaped text reads back up to the closing quote, whatever follows. The induction is on the
text, with one of the lemmas above for each way to write a character. -/
theorem stringOctets_escaped_append (cs : List Char) (rest : Bytes) :
    stringOctets (Utf8.encode (cs.flatMap escapedChar) ++ 0x22 :: rest) =
      .ok (Utf8.encode cs, rest) := by
  induction cs with
  | nil =>
      rw [stringOctets.eq_def]
      simp
  | cons c cs ih =>
      rw [List.flatMap_cons, Utf8.encode_append, List.append_assoc,
        stringOctets_escapedChar_append, ih]
      rfl

/-- A string is read back from the octets after its opening quote. -/
theorem string_escaped_append (s : String) (rest : Bytes) :
    string (Utf8.encode (s.toList.flatMap escapedChar) ++ 0x22 :: rest) = .ok (s, rest) := by
  have hText : Bytes.text? (Utf8.encode s.toList) = some s := Bytes.text?_ofText s
  rw [string, stringOctets_escaped_append]
  simp [bind, Except.bind, hText, pure, Except.pure]

end InvocationBridge.Json.Reader
