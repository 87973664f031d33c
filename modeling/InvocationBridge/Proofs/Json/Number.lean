import InvocationBridge.Json.Reader.Number
import InvocationBridge.Proofs.Utf8

/-!
Integers of one word read back from their digits, whatever comes after the last one. So does the
negative zero, which is a float.
-/

namespace InvocationBridge.Json.Reader

/-- A number cannot go on here. -/
def EndsNumber (rest : Bytes) : Prop :=
  ∀ b ∈ rest.head?, isDigit b = false ∧ b ≠ 0x2E ∧ startsExponent b = false

theorem le_foldl_digits (ds : List Nat) (s : Nat) : s ≤ ds.foldl (fun n d => n * 10 + d) s := by
  induction ds generalizing s with
  | nil => exact Nat.le_refl s
  | cons d ds ih => exact Nat.le_trans (by omega) (ih (s * 10 + d))

/-- As long as the number fits a word, no digit is left over for the exponent. -/
theorem appendDigits_eq (ds : List Nat) (s : Nat)
    (h : ds.foldl (fun n d => n * 10 + d) s < UInt64.size) :
    appendDigits s ds = (ds.foldl (fun n d => n * 10 + d) s, 0) := by
  induction ds generalizing s with
  | nil => rfl
  | cons d ds ih =>
      rw [List.foldl_cons] at h ⊢
      have hFits : s * 10 + d < UInt64.size := Nat.lt_of_le_of_lt (le_foldl_digits ds _) h
      rw [appendDigits, if_pos hFits, ih _ h]

/-- Digits fold back to the number that they were written for. -/
theorem foldl_digits_toDigits (n : Nat) :
    ((Nat.toDigits 10 n).map fun c => c.toNat - 0x30).foldl (fun n d => n * 10 + d) 0 = n := by
  have hValue : Nat.ofDigitChars 10 (Nat.toDigits 10 n) 0 = n := Nat.ofDigitChars_ten_toDigits
  rw [Nat.ofDigitChars_eq_foldl] at hValue
  simpa [List.foldl_map, Nat.mul_comm] using hValue

theorem isDigit_toUInt8 {c : Char} (h : c.isDigit = true) :
    c.toNat < 0x80 ∧ isDigit c.toNat.toUInt8 = true ∧
      digitValue c.toNat.toUInt8 = c.toNat - 0x30 := by
  have hRange : 0x30 ≤ c.toNat ∧ c.toNat ≤ 0x39 := by
    simpa [Char.isDigit, UInt32.le_iff_toNat_le] using h
  have hOctet := Utf8.toNat_toUInt8 (show c.toNat < 256 by omega)
  refine ⟨by omega, ?_, ?_⟩
  · simp only [isDigit, UInt8.le_iff_toNat_le, hOctet, UInt8.reduceToNat]
    simp [hRange]
  · simp only [digitValue, hOctet]

theorem encode_digits {cs : List Char} (h : ∀ c ∈ cs, c.isDigit = true) :
    Utf8.encode cs = cs.map fun c => c.toNat.toUInt8 := by
  induction cs with
  | nil => rfl
  | cons c cs ih =>
      obtain ⟨hFirst, hRest⟩ := List.forall_mem_cons.mp h
      rw [Utf8.encode_cons, Utf8.encodeChar_of_lt (isDigit_toUInt8 hFirst).1, ih hRest]
      rfl

/-- The digits end where the rest has none, and the rest is left as it is. -/
theorem digits_append {cs : List Char} (h : ∀ c ∈ cs, c.isDigit = true) {rest : Bytes}
    (hEnds : ∀ b ∈ rest.head?, isDigit b = false) :
    digits (Utf8.encode cs ++ rest) = cs.map (fun c => c.toNat - 0x30) ∧
      skipDigits (Utf8.encode cs ++ rest) = rest := by
  rw [encode_digits h]
  induction cs with
  | nil =>
      cases rest with
      | nil => exact ⟨rfl, rfl⟩
      | cons b rest => simp [digits, skipDigits, hEnds b rfl]
  | cons c cs ih =>
      obtain ⟨hFirst, hRest⟩ := List.forall_mem_cons.mp h
      obtain ⟨-, hDigit, hValue⟩ := isDigit_toUInt8 hFirst
      obtain ⟨hDigits, hSkip⟩ := ih hRest
      simp only [digits, skipDigits] at hDigits hSkip ⊢
      simp [hDigit, hValue, hDigits, hSkip]

/-- A number is written without leading zeros; only zero itself starts with one. -/
theorem toDigits_head (n : Nat) :
    ∃ c cs, Nat.toDigits 10 n = c :: cs ∧ (c = '0' → cs = []) := by
  induction n using Nat.strongRecOn with
  | ind n ih =>
      by_cases hSmall : n < 10
      · exact ⟨_, [], Nat.toDigits_of_lt_base hSmall, fun _ => rfl⟩
      · obtain ⟨c, cs, hDigits, hZero⟩ := ih (n / 10) (by omega)
        refine ⟨c, cs ++ [Nat.digitChar (n % 10)], ?_, fun hFirst => ?_⟩
        · rw [Nat.toDigits_of_base_le (by decide) (by omega), hDigits]
          rfl
        · -- a number that starts with zero is zero, and this one is ten at least
          rw [hFirst, hZero hFirst] at hDigits
          have hValue := foldl_digits_toDigits (n / 10)
          rw [hDigits] at hValue
          simp at hValue
          omega

/-- The digits of a number are read as that number, up to what follows them. -/
theorem number_append (negative : Bool) {n : Nat} (hWord : n < UInt64.size) {rest : Bytes}
    (hEnds : EndsNumber rest) :
    number negative (Utf8.encode (Nat.toDigits 10 n) ++ rest) = integer negative n 0 rest := by
  have hAll : ∀ c ∈ Nat.toDigits 10 n, c.isDigit = true :=
    fun c => Nat.isDigit_of_mem_toDigits (by decide) (by decide)
  have hStop : ∀ b ∈ rest.head?, isDigit b = false := fun b hb => (hEnds b hb).1
  obtain ⟨hDigits, hSkip⟩ := digits_append hAll hStop
  have hValue : appendDigits 0 (digits (Utf8.encode (Nat.toDigits 10 n) ++ rest)) = (n, 0) := by
    rw [hDigits, appendDigits_eq _ _ (by rwa [foldl_digits_toDigits]), foldl_digits_toDigits]
  obtain ⟨c, cs, hHead, hZero⟩ := toDigits_head n
  rw [hHead] at hAll hSkip hValue ⊢
  obtain ⟨hAscii, hDigit, -⟩ := isDigit_toUInt8 (hAll c List.mem_cons_self)
  rw [Utf8.encode_cons, Utf8.encodeChar_of_lt hAscii, List.singleton_append, List.cons_append]
    at hSkip hValue ⊢
  have hMore : skipDigits (Utf8.encode cs ++ rest) = rest := by
    simpa [skipDigits, hDigit] using hSkip
  have hLeading : ¬ (c.toNat.toUInt8 = 0x30 ∧
      (Utf8.encode cs ++ rest).head?.any isDigit = true) := by
    rintro ⟨hZeroOctet, hAny⟩
    have hNat : c.toNat = 0x30 := by
      rw [← Utf8.toNat_toUInt8 (show c.toNat < 256 by omega), hZeroOctet]
      rfl
    rw [hZero (Char.toNat_inj.mp hNat)] at hAny
    obtain ⟨b, hFirst, hFirstDigit⟩ := (Option.any_eq_true ..).mp hAny
    exact absurd hFirstDigit (by simp [hStop b hFirst])
  rw [number, if_neg (by simp [hDigit]), if_neg hLeading, hValue, hMore]
  cases rest with
  | nil => rfl
  | cons b rest =>
      obtain ⟨-, hPoint, hExponent⟩ := hEnds b rfl
      simp [hPoint, hExponent]

/-- The compact text of an integer of one word, signed only below zero, is read as that integer. -/
theorem integer_chars_append {n : Int} (hLower : -0x8000000000000000 ≤ n)
    (hUpper : n < 0x10000000000000000) {rest : Bytes} (hEnds : EndsNumber rest) :
    (if n < 0 then number true else number false)
      (Utf8.encode (Nat.toDigits 10 n.natAbs) ++ rest) = .ok (.int n, rest) := by
  have hWord : n.natAbs < UInt64.size := by
    show n.natAbs < 18446744073709551616
    omega
  split
  · next hNegative =>
      have hRange : n.natAbs ≠ 0 ∧ n.natAbs ≤ UInt64.size / 2 := by
        show n.natAbs ≠ 0 ∧ n.natAbs ≤ 18446744073709551616 / 2
        omega
      have hValue : -(n.natAbs : Int) = n := by omega
      rw [number_append true hWord hEnds, integer, if_neg (by decide), if_neg (by decide),
        if_pos hRange, hValue]
  · next hNegative =>
      have hValue : (n.natAbs : Int) = n := by omega
      rw [number_append false hWord hEnds, integer, if_neg (by decide), if_pos (by decide), hValue]

/-- The digits of the negative zero scale to zero again, and the sign is put back. -/
theorem scaled?_zero : (Decimal.scaled? 0 (-1)).map (fun x => -x) = some (-0.0) := by
  simp only [Decimal.scaled?]
  rw [if_pos (by decide), Decimal.shrink]
  decide

theorem ofFloat_negativeZero : Decimal.ofFloat (-0.0) = ['-', '0', '.', '0'] := by decide

/-- What is written for the negative zero after its sign is read as the negative zero. -/
theorem negativeZero_append {rest : Bytes} (hEnds : EndsNumber rest) :
    number true (0x30 :: 0x2E :: 0x30 :: rest) = .ok (.float (-0.0), rest) := by
  have hStop : ∀ b ∈ rest.head?, isDigit b = false := fun b hb => (hEnds b hb).1
  have hZero : ∀ c ∈ ['0'], c.isDigit = true := by simp
  obtain ⟨hDigits, hSkip⟩ := digits_append hZero hStop
  have hFloat : float true 0 (-1) rest = .ok (.float (-0.0), rest) := by
    obtain ⟨x, hScaled, hNegative⟩ := Option.map_eq_some_iff.mp scaled?_zero
    rw [float, hScaled, ← hNegative]
    rfl
  have hFraction : fraction true 0 0 (0x30 :: rest) = float true 0 (-1) rest := by
    change digits (0x30 :: rest) = [0] at hDigits
    change skipDigits (0x30 :: rest) = rest at hSkip
    rw [fraction, hDigits, hSkip]
    cases rest with
    | nil => rfl
    | cons b rest =>
        obtain ⟨-, -, hExponent⟩ := hEnds b rfl
        simp [appendDigits, hExponent]
  rw [number, if_neg (by decide), if_neg (by simp [isDigit])]
  exact hFraction.trans hFloat

end InvocationBridge.Json.Reader
