import InvocationBridge.Proofs.Utf8
import InvocationBridge.Text.Hex

/-!
What hexadecimal digits are, and how many of them octets have.
-/

namespace InvocationBridge.Hex

/-- Digits are written in lower case: a code point below the letters or among the small ones. -/
theorem toNat_digit {n : Nat} (h : n < 16) :
    (digit n).toNat = if n < 10 then 0x30 + n else 0x57 + n := by
  unfold digit
  split <;> exact Utf8.toNat_char (by omega)

theorem toNat_digit_lt {n : Nat} (h : n < 16) : (digit n).toNat < 0x80 := by
  rw [toNat_digit h]
  grind

/-- Nothing but the sixteen digits is written. -/
theorem exists_digit_of_mem {octets : Bytes} {c : Char} (h : c ∈ ofBytes octets) :
    ∃ n < 16, c = digit n := by
  obtain ⟨octet, -, hDigit⟩ := List.mem_flatMap.mp h
  have hRange := octet.toNat_lt
  simp only [ofByte, List.mem_cons, List.not_mem_nil, or_false] at hDigit
  rcases hDigit with rfl | rfl
  · exact ⟨octet.toNat / 16, by omega, rfl⟩
  · exact ⟨octet.toNat % 16, by omega, rfl⟩

theorem encode_ofBytes_cons (octet : UInt8) (octets : Bytes) :
    Utf8.encode (ofBytes (octet :: octets)) =
      (digit (octet.toNat / 16)).toNat.toUInt8 ::
        (digit (octet.toNat % 16)).toNat.toUInt8 :: Utf8.encode (ofBytes octets) := by
  have hRange := octet.toNat_lt
  have hHigh := toNat_digit_lt (show octet.toNat / 16 < 16 by omega)
  have hLow := toNat_digit_lt (show octet.toNat % 16 < 16 by omega)
  rw [ofBytes, List.flatMap_cons, ofByte, List.cons_append, List.singleton_append,
    Utf8.encode_cons_of_lt hHigh, Utf8.encode_cons_of_lt hLow, ofBytes]

/-- The digits are ASCII, so that their UTF-8 encoding is one byte each. -/
theorem encode_ofBytes (octets : Bytes) :
    Utf8.encode (ofBytes octets) = (ofBytes octets).map fun c => c.toNat.toUInt8 := by
  refine Utf8.encode_eq_map fun c hMem => ?_
  obtain ⟨n, hRange, rfl⟩ := exists_digit_of_mem hMem
  exact toNat_digit_lt hRange

theorem length_ofBytes (octets : Bytes) : (ofBytes octets).length = 2 * octets.length := by
  induction octets with
  | nil => rfl
  | cons octet octets ih =>
      rw [ofBytes, List.flatMap_cons, List.length_append, ← ofBytes, ih, List.length_cons]
      simp only [ofByte, List.length_cons, List.length_nil]
      omega

/-- Writing in two parts is writing in one. Identifiers are written in five of them. -/
theorem ofBytes_take_append_drop (octets : Bytes) (count : Nat) :
    ofBytes (octets.take count) ++ ofBytes (octets.drop count) = ofBytes octets := by
  rw [ofBytes, ofBytes, ← List.flatMap_append, List.take_append_drop, ofBytes]

section Groups

variable {octets : Bytes} {count : Nat} (h : count ≤ octets.length)

include h

theorem length_ofBytes_take : (ofBytes (octets.take count)).length = 2 * count := by
  rw [length_ofBytes, List.length_take, Nat.min_eq_left h]

theorem take_ofBytes : (ofBytes octets).take (2 * count) = ofBytes (octets.take count) := by
  rw [← ofBytes_take_append_drop octets count, List.take_left' (length_ofBytes_take h)]

theorem drop_ofBytes : (ofBytes octets).drop (2 * count) = ofBytes (octets.drop count) := by
  rw [← ofBytes_take_append_drop octets count, List.drop_left' (length_ofBytes_take h)]

end Groups

end InvocationBridge.Hex
