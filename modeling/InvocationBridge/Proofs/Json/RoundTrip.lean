import InvocationBridge.Proofs.Json.Ordered
import InvocationBridge.Proofs.Json.Value

/-!
Values that were read are read again from what is written for them.

Floats are left out, since their text is not tied to their value here. The integers that can be read
are those of one word, so all of them can be written and read again.
-/

namespace InvocationBridge.Json

/-- A value whose numbers are integers. A text of an integer can spell the negative zero, which is
a float. -/
inductive Integral : Json → Prop where
  | null : Integral .null
  | bool (b : Bool) : Integral (.bool b)
  | int (n : Int) : Integral (.num (.int n))
  | negativeZero : Integral (.num (.float (-0.0)))
  | str (s : String) : Integral (.str s)
  | arr {items : List Json} (hItems : ∀ v ∈ items, Integral v) : Integral (.arr items)
  | obj {fields : Fields Json} (hFields : ∀ field ∈ fields, Integral field.2) :
      Integral (.obj fields)

namespace Reader

theorem exists_eq_float_of_float {negative : Bool} {significand : Nat} {power : Int}
    {bs rest : Bytes} {n : Number} (h : float negative significand power bs = .ok (n, rest)) :
    ∃ x, n = .float x := by
  rw [float] at h
  split at h
  · cases h
    exact ⟨_, rfl⟩
  · cases h

theorem exists_eq_float_of_exponent {negative : Bool} {significand : Nat} {power : Int}
    {bs rest : Bytes} {n : Number} (h : exponent negative significand power bs = .ok (n, rest)) :
    ∃ x, n = .float x := by
  have hValue {down : Bool} {digits : Bytes}
      (h : exponentValue negative significand power down digits = .ok (n, rest)) :
      ∃ x, n = .float x := by
    rw [exponentValue.eq_def] at h
    split at h
    · cases h
    · split at h
      · split at h
        · exact exists_eq_float_of_float h
        · split at h
          · cases h
            exact ⟨_, rfl⟩
          · cases h
      · cases h
  rw [exponent.eq_def] at h
  split at h <;> exact hValue h

/-- A fraction makes a number a float, even if all its digits are zeros. -/
theorem exists_eq_float_of_fraction {negative : Bool} {significand : Nat} {power : Int}
    {bs rest : Bytes} {n : Number} (h : fraction negative significand power bs = .ok (n, rest)) :
    ∃ x, n = .float x := by
  rw [fraction] at h
  split at h
  · cases h
  · split at h
    split at h
    · split at h
      · exact exists_eq_float_of_exponent h
      · exact exists_eq_float_of_float h
    · exact exists_eq_float_of_float h

/-- Digits are taken in only as long as the result still fits a word. -/
theorem lt_of_appendDigits {significand result excess : Nat} {ds : List Nat}
    (hWord : significand < UInt64.size) (h : appendDigits significand ds = (result, excess)) :
    result < UInt64.size := by
  induction ds generalizing significand with
  | nil =>
      cases h
      exact hWord
  | cons d ds ih =>
      rw [appendDigits] at h
      split at h
      · next hFits => exact ih hFits h
      · cases h
        exact hWord

/-- An integer that was read fits one word, signed or unsigned; larger ones became floats. -/
theorem bounds_of_integer {negative : Bool} {significand excess : Nat} {bs rest : Bytes} {n : Int}
    (hWord : significand < UInt64.size)
    (h : integer negative significand excess bs = .ok (.int n, rest)) :
    -0x8000000000000000 ≤ n ∧ n < 0x10000000000000000 := by
  change significand < 0x10000000000000000 at hWord
  rw [integer] at h
  split at h
  · obtain ⟨_, hFloat⟩ := exists_eq_float_of_float h
    cases hFloat
  · split at h
    · cases h
      omega
    · split at h
      · next hHalf =>
          change significand ≠ 0 ∧ significand ≤ 0x10000000000000000 / 2 at hHalf
          cases h
          omega
      · cases h

/-- An integer that was read is one of 64 bits, with a sign if it is negative. -/
theorem bounds_of_number {negative : Bool} {bs rest : Bytes} {n : Int}
    (h : number negative bs = .ok (.int n, rest)) :
    -0x8000000000000000 ≤ n ∧ n < 0x10000000000000000 := by
  rw [number.eq_def] at h
  split at h
  · cases h
  · split at h
    · cases h
    · split at h
      · cases h
      · split at h
        next hDigits =>
          have hWord := lt_of_appendDigits (show 0 < UInt64.size by decide) hDigits
          split at h
          · exact bounds_of_integer hWord h
          · split at h
            · obtain ⟨_, hFloat⟩ := exists_eq_float_of_fraction h
              cases hFloat
            · split at h
              · obtain ⟨_, hFloat⟩ := exists_eq_float_of_exponent h
                cases hFloat
              · exact bounds_of_integer hWord h

/-- Of the values that can be read, those of integers can be written and read again. -/
theorem Given.plain {depth : Nat} {v : Json} (h : Given depth v) (hIntegral : v.Integral) :
    v.Plain depth := by
  induction h with
  | null => exact .null
  | bool b => exact .bool b
  | num hNumber =>
      cases hIntegral with
      | int n =>
          obtain ⟨hLower, hUpper⟩ := bounds_of_number hNumber
          exact .int hLower hUpper
      | negativeZero => exact .negativeZero
  | str s => exact .str s
  | arr _ ih =>
      cases hIntegral with
      | arr hItems => exact .arr fun v hMem => ih v hMem (hItems v hMem)
  | obj hSorted _ ih =>
      cases hIntegral with
      | obj hFields => exact .obj hSorted fun field hMem => ih field hMem (hFields field hMem)

end Reader

/-- A value of integers that was read is read again from what is written for it. -/
theorem parse_bytes_of_parse {text : Bytes} {v : Json} (h : parse text = .ok v)
    (hIntegral : v.Integral) : parse v.bytes = .ok v :=
  parse_bytes ((given_of_parse h).plain hIntegral)

end InvocationBridge.Json
