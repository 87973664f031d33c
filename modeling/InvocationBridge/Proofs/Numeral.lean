import InvocationBridge.Text.Numeral

/-!
Numerals are the digits of numbers below the bound, with or without a plus sign.
-/

namespace InvocationBridge.Numeral

/-- Decimal digits, at least one, that stand for a number. -/
structure Spells (digits : List Char) (n : Nat) : Prop where
  nonempty : digits ≠ []
  isDigit : ∀ c ∈ digits, c.isDigit
  value : Nat.ofDigitChars 10 digits 0 = n

instance (digits : List Char) (n : Nat) : Decidable (Spells digits n) :=
  decidable_of_iff
    (digits ≠ [] ∧ digits.all Char.isDigit ∧ Nat.ofDigitChars 10 digits 0 = n)
    ⟨fun ⟨hNonempty, hDigit, hValue⟩ => ⟨hNonempty, List.all_eq_true.mp hDigit, hValue⟩,
      fun ⟨hNonempty, hDigit, hValue⟩ => ⟨hNonempty, List.all_eq_true.mpr hDigit, hValue⟩⟩

/-- Digits as a numeral has them: alone, or after a plus sign. -/
def Holds (numeral digits : List Char) : Prop := numeral = digits ∨ numeral = '+' :: digits

/-- Without a plus sign in front a numeral is nothing but its digits. -/
theorem Holds.eq_of_unsigned {numeral digits : List Char} (h : Holds numeral digits)
    (hUnsigned : numeral.head? ≠ some '+') : numeral = digits := by
  rcases h with rfl | rfl
  · rfl
  · exact absurd rfl hUnsigned

theorem digit?_eq_some_iff {c : Char} {n : Nat} :
    digit? c = some n ↔ c.isDigit ∧ n = c.toNat - '0'.toNat := by
  have hDigit : c.isDigit ↔ '0' ≤ c ∧ c ≤ '9' := by simp [Char.isDigit, Char.le_def]
  rw [hDigit, digit?, Option.ite_none_right_eq_some, Option.some.injEq, eq_comm (a := n)]
  rfl

/-- Digits extend a number as they do in decimal notation. There is no bound on the way. -/
theorem extend?_eq_some_iff {cs : List Char} {n m : Nat} :
    extend? n cs = some m ↔ (∀ c ∈ cs, c.isDigit) ∧ Nat.ofDigitChars 10 cs n = m := by
  induction cs generalizing n with
  | nil => simp [extend?]
  | cons c cs ih =>
      simp only [extend?, Option.bind_eq_bind, Option.bind_eq_some_iff, digit?_eq_some_iff, ih,
        List.forall_mem_cons, Nat.ofDigitChars_cons, Nat.mul_comm 10]
      constructor
      · rintro ⟨_, ⟨hFirst, rfl⟩, hRest, hValue⟩
        exact ⟨⟨hFirst, hRest⟩, hValue⟩
      · rintro ⟨⟨hFirst, hRest⟩, hValue⟩
        exact ⟨_, ⟨hFirst, rfl⟩, hRest, hValue⟩

/-- Only digits are read, and at least one. -/
theorem ofDigits?_eq_some_iff {cs : List Char} {n : Nat} : ofDigits? cs = some n ↔ Spells cs n := by
  cases cs with
  | nil =>
      constructor
      · exact nofun
      · intro h
        exact absurd rfl h.nonempty
  | cons c cs =>
      rw [ofDigits?, extend?_eq_some_iff]
      constructor
      · intro ⟨hDigits, hValue⟩
        exact ⟨List.cons_ne_nil c cs, hDigits, hValue⟩
      · intro h
        exact ⟨h.isDigit, h.value⟩

theorem Spells.unique {digits : List Char} {n m : Nat} (h : Spells digits n)
    (hOther : Spells digits m) : n = m :=
  h.value.symm.trans hOther.value

/-- A sign is no digit. -/
theorem not_spells_plus (digits : List Char) (n : Nat) : ¬Spells ('+' :: digits) n := by
  intro h
  exact absurd (h.isDigit _ List.mem_cons_self) (by decide)

/-- A numeral is read exactly if it holds the digits of a number below the bound. -/
theorem parse?_eq_some_iff {bound n : Nat} {cs : List Char} :
    parse? bound cs = some n ↔ ∃ digits, Holds cs digits ∧ Spells digits n ∧ n < bound := by
  unfold parse?
  split
  · next digits =>
      rw [Option.filter_eq_some_iff, ofDigits?_eq_some_iff, decide_eq_true_eq]
      constructor
      · intro ⟨hSpells, hBound⟩
        exact ⟨digits, .inr rfl, hSpells, hBound⟩
      · rintro ⟨digits', rfl | hSame, hSpells, hBound⟩
        · exact absurd hSpells (not_spells_plus _ _)
        · cases hSame
          exact ⟨hSpells, hBound⟩
  · next hUnsigned =>
      rw [Option.filter_eq_some_iff, ofDigits?_eq_some_iff, decide_eq_true_eq]
      constructor
      · intro ⟨hSpells, hBound⟩
        exact ⟨cs, .inl rfl, hSpells, hBound⟩
      · rintro ⟨digits, rfl | hSame, hSpells, hBound⟩
        · exact ⟨hSpells, hBound⟩
        · exact absurd hSame (hUnsigned digits)

/-- What is no numeral below the bound has no digits, or stands for a number that is too large. -/
theorem parse?_eq_none_iff {bound : Nat} {cs : List Char} :
    parse? bound cs = none ↔ ∀ digits n, Holds cs digits → Spells digits n → bound ≤ n := by
  rw [Option.eq_none_iff_forall_ne_some]
  simp only [ne_eq, parse?_eq_some_iff, not_exists, not_and, Nat.not_lt]
  exact ⟨fun h digits n => h n digits, fun h n digits => h digits n⟩

end InvocationBridge.Numeral
