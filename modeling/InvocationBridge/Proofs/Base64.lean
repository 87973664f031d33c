import InvocationBridge.Base64
import InvocationBridge.Proofs.Except
import InvocationBridge.Proofs.Utf8

/-!
The texts that Base64 is read from are the texts that are written: padded to whole groups, and with
no bit set beyond the last octet.
-/

namespace InvocationBridge.Base64

/-- Values that a symbol stands for. -/
def Sextets (vs : List Nat) : Prop := ∀ v ∈ vs, v < 64

@[simp] theorem sextets_nil : Sextets [] := nofun

@[simp] theorem sextets_cons {v : Nat} {vs : List Nat} :
    Sextets (v :: vs) ↔ v < 64 ∧ Sextets vs := List.forall_mem_cons

@[simp] theorem sextets_append {vs ws : List Nat} :
    Sextets (vs ++ ws) ↔ Sextets vs ∧ Sextets ws := List.forall_mem_append

theorem toNat_symbol (v : Nat) :
    (symbol v).toNat =
      if v < 26 then 0x41 + v
      else if v < 52 then 0x61 + (v - 26)
      else if v < 62 then 0x30 + (v - 52)
      else if v = 62 then 0x2B
      else 0x2F := by
  simp only [symbol, apply_ite UInt8.toNat, UInt8.reduceToNat]
  grind [Utf8.toNat_toUInt8]

/-- The alphabet is read and written consistently: a byte stands for a sextet exactly if it is
the symbol of that sextet. -/
theorem value?_eq_some_iff {b : UInt8} {v : Nat} :
    value? b = some v ↔ v < 64 ∧ b = symbol v := by
  constructor
  · intro h
    have hb := b.toNat_lt
    simp only [value?, UInt8.le_iff_toNat_le, ← UInt8.toNat_inj, UInt8.reduceToNat] at h
    refine ⟨by grind, UInt8.toNat_inj.mp ?_⟩
    rw [toNat_symbol]
    grind
  · intro ⟨hv, hSymbol⟩
    subst hSymbol
    simp only [value?, UInt8.le_iff_toNat_le, ← UInt8.toNat_inj, UInt8.reduceToNat, toNat_symbol]
    grind

theorem value?_symbol {v : Nat} (hv : v < 64) : value? (symbol v) = some v :=
  value?_eq_some_iff.mpr ⟨hv, rfl⟩

/-- Padding is not in the alphabet, so that where the symbols end is never in doubt. -/
theorem symbol_ne_pad {v : Nat} (hv : v < 64) : symbol v ≠ pad := by
  intro h
  have hValue := value?_symbol hv
  rw [h] at hValue
  cases hValue

theorem toNat_symbol_lt (v : Nat) : (symbol v).toNat < 0x80 := by
  rw [toNat_symbol]
  grind

/-- A text that does not start with one of the last signs starts with the first value. -/
theorem cons_eq_map_symbol_append_iff {b : UInt8} {rest signs : Bytes} {vs : List Nat}
    (hFirst : signs.head? ≠ some b) :
    Sextets vs ∧ b :: rest = vs.map symbol ++ signs ↔
      ∃ v tail, vs = v :: tail ∧ value? b = some v ∧ Sextets tail ∧
        rest = tail.map symbol ++ signs := by
  constructor
  · intro ⟨hSextets, hText⟩
    cases vs with
    | nil => exact absurd (congrArg List.head? hText).symm hFirst
    | cons v tail =>
        obtain ⟨hv, hTail⟩ := sextets_cons.mp hSextets
        obtain ⟨hSymbol, hRest⟩ := List.cons.inj hText
        exact ⟨v, tail, rfl, value?_eq_some_iff.mpr ⟨hv, hSymbol⟩, hTail, hRest⟩
  · intro ⟨v, tail, hVs, hValue, hTail, hRest⟩
    obtain ⟨hv, hSymbol⟩ := value?_eq_some_iff.mp hValue
    subst hVs hSymbol hRest
    exact ⟨sextets_cons.mpr ⟨hv, hTail⟩, rfl⟩

/-- A run without padding is read as sextets exactly if it is written with their symbols. The
offset only shows in the error. -/
theorem values_eq_ok_iff {offset : Nat} {whole : Bytes} {vs : List Nat} :
    values offset whole = .ok vs ↔ Sextets vs ∧ whole = vs.map symbol := by
  induction whole generalizing offset vs with
  | nil => cases vs <;> simp [values]
  | cons b rest ih =>
      have hText : Sextets vs ∧ b :: rest = vs.map symbol ++ [] ↔ _ :=
        cons_eq_map_symbol_append_iff nofun
      simp only [List.append_nil] at hText
      rw [hText]
      cases hValue : value? b with
      | none => simp [values, hValue]
      | some v =>
          simp only [values, hValue, map_eq_ok_iff, ih]
          grind

/-- After a first padding sign there are only others. -/
theorem lastGroup_padded_eq_ok_iff {start i place : Nat} {text : Bytes} {vs : List Nat}
    {pads : Nat} (hi : 2 ≤ i) :
    lastGroup start i (some place) text = .ok (vs, pads) ↔
      vs = [] ∧ text = List.replicate pads pad := by
  induction text generalizing i pads with
  | nil =>
      simp only [lastGroup, Except.ok.injEq, Prod.mk.injEq, List.nil_eq, List.replicate_eq_nil_iff,
        eq_comm (a := 0)]
  | cons b rest ih =>
      by_cases hPad : b = pad
      · have hStep : lastGroup start i (some place) (b :: rest) =
            (lastGroup start (i + 1) (some place) rest).map fun r => (r.1, r.2 + 1) := by
          rw [lastGroup, if_pos hPad, if_neg (by omega)]
          rfl
        rw [hStep, map_eq_ok_iff]
        constructor
        · intro h
          obtain ⟨⟨ws, count⟩, hRest, hPair⟩ := h
          cases hPair
          obtain ⟨hVs, hRest⟩ := (ih (Nat.le_succ_of_le hi)).mp hRest
          exact ⟨hVs, by rw [hPad, hRest, List.replicate_succ]⟩
        · intro h
          obtain ⟨hVs, hText⟩ := h
          cases pads with
          | zero => cases hText
          | succ count =>
              have hRest := (List.cons.inj hText).2
              exact ⟨(vs, count), (ih (Nat.le_succ_of_le hi)).mpr ⟨hVs, hRest⟩, rfl⟩
      · simp only [lastGroup, if_neg hPad]
        constructor
        · intro h
          cases h
        · intro h
          cases pads with
          | zero => cases h.2
          | succ count => exact absurd (List.cons.inj h.2).1 hPad

/-- The last group is symbols followed by padding, and padding does not start before two symbols
of the group were read. -/
theorem lastGroup_eq_ok_iff {start i : Nat} {text : Bytes} {vs : List Nat} {pads : Nat} :
    lastGroup start i none text = .ok (vs, pads) ↔
      (Sextets vs ∧ text = vs.map symbol ++ List.replicate pads pad) ∧
        (0 < pads → 2 ≤ i + vs.length) := by
  induction text generalizing i vs with
  | nil =>
      simp only [lastGroup, Except.ok.injEq, Prod.mk.injEq, List.nil_eq, List.append_eq_nil_iff,
        List.map_eq_nil_iff, List.replicate_eq_nil_iff, eq_comm (a := 0)]
      constructor
      · intro ⟨hVs, hPads⟩
        subst hVs hPads
        simp
      · intro ⟨⟨_, hBoth⟩, _⟩
        exact hBoth
  | cons b rest ih =>
      by_cases hPad : b = pad
      · have hEmpty : Sextets vs ∧ b :: rest = vs.map symbol ++ List.replicate pads pad →
            vs = [] := by
          intro ⟨hSextets, hText⟩
          cases vs with
          | nil => rfl
          | cons v vs =>
              have hSymbol := hPad.symm.trans (List.cons.inj hText).1
              exact absurd hSymbol.symm (symbol_ne_pad (sextets_cons.mp hSextets).1)
        by_cases hi : i < 2
        · simp only [lastGroup, if_pos hPad, if_pos hi]
          refine ⟨nofun, ?_⟩
          intro ⟨hWritten, hPlace⟩
          cases hEmpty hWritten
          cases pads with
          | zero => cases hWritten.2
          | succ count => exact absurd (hPlace (Nat.succ_pos _)) (Nat.not_le.mpr hi)
        · have hStep : lastGroup start i none (b :: rest) = lastGroup start i (some i) (b :: rest) := by
            simp only [lastGroup, if_pos hPad, if_neg hi]
            rfl
          rw [hStep, lastGroup_padded_eq_ok_iff (Nat.not_lt.mp hi)]
          constructor
          · intro ⟨hVs, hText⟩
            subst hVs
            exact ⟨⟨sextets_nil, hText⟩, fun _ => Nat.not_lt.mp hi⟩
          · intro ⟨hWritten, _⟩
            cases hEmpty hWritten
            exact ⟨rfl, hWritten.2⟩
      · have hFirst : (List.replicate pads pad).head? ≠ some b := by
          grind
        rw [cons_eq_map_symbol_append_iff hFirst]
        cases hValue : value? b with
        | none => simp [lastGroup, hPad, hValue]
        | some v =>
            simp only [lastGroup, if_neg hPad, hValue, map_eq_ok_iff]
            constructor
            · intro ⟨⟨tail, count⟩, hRest, hPair⟩
              cases hPair
              obtain ⟨⟨hTail, hRest⟩, hPlace⟩ := ih.mp hRest
              refine ⟨⟨v, tail, rfl, rfl, hTail, hRest⟩, ?_⟩
              intro hPads
              have := hPlace hPads
              simp only [List.length_cons]
              omega
            · intro ⟨⟨w, tail, hVs, hEq, hTail, hRest⟩, hPlace⟩
              cases hEq
              subst hVs
              simp only [List.length_cons] at hPlace
              refine ⟨(tail, pads), ih.mpr ⟨⟨hTail, hRest⟩, ?_⟩, rfl⟩
              intro hPads
              have := hPlace hPads
              omega

section Groups

variable {a b c d : Nat}

theorem encode_join_append (ha : a < 64) (hb : b < 64) (hc : c < 64) (hd : d < 64)
    (rest : Bytes) :
    encode (join a b c d ++ rest) =
      symbol a :: symbol b :: symbol c :: symbol d :: encode rest := by
  have hFirst : (a * 4 + b / 16) / 4 = a := by omega
  have hSecond : (a * 4 + b / 16) % 4 * 16 + (b % 16 * 16 + c / 4) / 16 = b := by omega
  have hThird : (b % 16 * 16 + c / 4) % 16 * 4 + (c % 4 * 64 + d) / 64 = c := by omega
  have hFourth : (c % 4 * 64 + d) % 64 = d := by omega
  simp only [join, List.cons_append, List.nil_append, encode]
  rw [Utf8.toNat_toUInt8 (by omega), Utf8.toNat_toUInt8 (by omega), Utf8.toNat_toUInt8 (by omega),
    hFirst, hSecond, hThird, hFourth]

/-- One octet is written as two symbols and two pads, provided that the four spare bits of the
second are zero. -/
theorem encode_join_take_one (ha : a < 64) (hb : b < 64) (hSpare : b % 16 = 0) :
    encode ((join a b 0 0).take 1) = [symbol a, symbol b, pad, pad] := by
  have hFirst : (a * 4 + b / 16) / 4 = a := by omega
  have hSecond : (a * 4 + b / 16) % 4 * 16 = b := by omega
  simp only [join, List.take_succ_cons, List.take_zero, encode]
  rw [Utf8.toNat_toUInt8 (by omega), hFirst, hSecond]

/-- Two octets are written as three symbols and one pad, provided that the two spare bits of the
third are zero. -/
theorem encode_join_take_two (ha : a < 64) (hb : b < 64) (hc : c < 64) (hSpare : c % 4 = 0) :
    encode ((join a b c 0).take 2) = [symbol a, symbol b, symbol c, pad] := by
  have hFirst : (a * 4 + b / 16) / 4 = a := by omega
  have hSecond : (a * 4 + b / 16) % 4 * 16 + (b % 16 * 16 + c / 4) / 16 = b := by omega
  have hThird : (b % 16 * 16 + c / 4) % 16 * 4 = c := by omega
  simp only [join, List.take_succ_cons, List.take_zero, encode]
  rw [Utf8.toNat_toUInt8 (by omega), Utf8.toNat_toUInt8 (by omega), hFirst, hSecond, hThird]

/-- Three octets come back from the four values that they are written as. -/
theorem join_split (x y z : UInt8) :
    join (x.toNat / 4) (x.toNat % 4 * 16 + y.toNat / 16) (y.toNat % 16 * 4 + z.toNat / 64)
      (z.toNat % 64) = [x, y, z] := by
  have hx := x.toNat_lt
  have hy := y.toNat_lt
  have hz := z.toNat_lt
  simp only [join, List.cons.injEq, ← UInt8.toNat_inj, and_true]
  rw [Utf8.toNat_toUInt8 (by omega), Utf8.toNat_toUInt8 (by omega), Utf8.toNat_toUInt8 (by omega)]
  omega

end Groups

/-- Whole groups are written as the values that they are joined from. -/
theorem encode_joinAll_append {whole : List Nat} {tail : Bytes} (hSextets : Sextets whole)
    (hGroups : whole.length % 4 = 0) :
    encode (joinAll whole ++ tail) = whole.map symbol ++ encode tail := by
  induction whole using joinAll.induct with
  | case1 a b c d rest ih =>
      simp only [sextets_cons] at hSextets
      obtain ⟨ha, hb, hc, hd, hRest⟩ := hSextets
      have hLength : rest.length % 4 = 0 := by
        simp only [List.length_cons] at hGroups
        omega
      rw [joinAll, List.append_assoc, encode_join_append ha hb hc hd, ih hRest hLength]
      rfl
  | case2 whole hShort =>
      match whole with
      | [] => rfl
      | [_] | [_, _] | [_, _, _] => simp at hGroups
      | a :: b :: c :: d :: rest => exact absurd rfl (hShort a b c d rest)

/-- Octets are whole groups and one to three more octets, if there are any. -/
theorem exists_groups {octets : Bytes} (hOctets : octets ≠ []) :
    ∃ whole tail, octets = joinAll whole ++ tail ∧ Sextets whole ∧ whole.length % 4 = 0 ∧
      tail ≠ [] ∧ tail.length ≤ 3 := by
  induction octets using encode.induct with
  | case1 => exact absurd rfl hOctets
  | case2 x => exact ⟨[], [x], rfl, sextets_nil, rfl, nofun, by simp⟩
  | case3 x y => exact ⟨[], [x, y], rfl, sextets_nil, rfl, nofun, by simp⟩
  | case4 x y z rest ih =>
      by_cases hRest : rest = []
      · subst hRest
        exact ⟨[], [x, y, z], rfl, sextets_nil, rfl, nofun, by simp⟩
      · obtain ⟨whole, tail, hSplit, hSextets, hGroups, hTail⟩ := ih hRest
        have hx := x.toNat_lt
        have hy := y.toNat_lt
        have hz := z.toNat_lt
        refine ⟨x.toNat / 4 :: (x.toNat % 4 * 16 + y.toNat / 16) ::
          (y.toNat % 16 * 4 + z.toNat / 64) :: (z.toNat % 64) :: whole, tail, ?_, ?_, ?_, hTail⟩
        · rw [joinAll, join_split, hSplit]
          rfl
        · simp only [sextets_cons]
          exact ⟨by omega, by omega, by omega, by omega, hSextets⟩
        · simp only [List.length_cons]
          omega

/-- One to three octets are written as a group that they are read from. -/
theorem exists_finish_eq {tail : Bytes} (hTail : tail ≠ []) (hLength : tail.length ≤ 3) :
    ∃ vs, Sextets vs ∧ 2 ≤ vs.length ∧ vs.length ≤ 4 ∧
      encode tail = vs.map symbol ++ List.replicate (4 - vs.length) pad ∧
      ∀ start octet, finish start octet vs = .ok tail := by
  match tail with
  | [] => exact absurd rfl hTail
  | [x] =>
      have hx := x.toNat_lt
      have hJoin := join_split x 0 0
      simp only [UInt8.toNat_zero, Nat.zero_div, Nat.zero_mod, Nat.zero_mul, Nat.add_zero] at hJoin
      refine ⟨[x.toNat / 4, x.toNat % 4 * 16], ?_, by simp, by simp, rfl, ?_⟩
      · simp only [sextets_cons, sextets_nil, and_true]
        omega
      · intro start octet
        rw [finish, if_pos (by omega), hJoin]
        rfl
  | [x, y] =>
      have hx := x.toNat_lt
      have hy := y.toNat_lt
      have hJoin := join_split x y 0
      simp only [UInt8.toNat_zero, Nat.zero_div, Nat.zero_mod, Nat.add_zero] at hJoin
      refine ⟨[x.toNat / 4, x.toNat % 4 * 16 + y.toNat / 16, y.toNat % 16 * 4], ?_, by simp,
        by simp, rfl, ?_⟩
      · simp only [sextets_cons, sextets_nil, and_true]
        omega
      · intro start octet
        rw [finish, if_pos (by omega), hJoin]
        rfl
  | [x, y, z] =>
      have hx := x.toNat_lt
      have hy := y.toNat_lt
      have hz := z.toNat_lt
      refine ⟨[x.toNat / 4, x.toNat % 4 * 16 + y.toNat / 16, y.toNat % 16 * 4 + z.toNat / 64,
        z.toNat % 64], ?_, by simp, by simp, rfl, ?_⟩
      · simp only [sextets_cons, sextets_nil, and_true]
        omega
      · intro start octet
        rw [finish, join_split]
  | _ :: _ :: _ :: _ :: _ =>
      simp only [List.length_cons] at hLength
      omega

/-- A group that is read as some octets is what they are written as. -/
theorem encode_of_finish_eq {start : Nat} {octet : UInt8} {vs : List Nat} {tail : Bytes}
    (hSextets : Sextets vs) (hTwo : 2 ≤ vs.length) (hFour : vs.length ≤ 4)
    (h : finish start octet vs = .ok tail) :
    encode tail = vs.map symbol ++ List.replicate (4 - vs.length) pad := by
  match vs with
  | [] | [_] => simp at hTwo
  | [a, b] =>
      simp only [sextets_cons] at hSextets
      obtain ⟨ha, hb, _⟩ := hSextets
      by_cases hSpare : b % 16 = 0
      · rw [finish, if_pos hSpare] at h
        cases h
        exact encode_join_take_one ha hb hSpare
      · rw [finish, if_neg hSpare] at h
        cases h
  | [a, b, c] =>
      simp only [sextets_cons] at hSextets
      obtain ⟨ha, hb, hc, _⟩ := hSextets
      by_cases hSpare : c % 4 = 0
      · rw [finish, if_pos hSpare] at h
        cases h
        exact encode_join_take_two ha hb hc hSpare
      · rw [finish, if_neg hSpare] at h
        cases h
  | [a, b, c, d] =>
      simp only [sextets_cons] at hSextets
      obtain ⟨ha, hb, hc, hd, _⟩ := hSextets
      cases h
      exact encode_join_append ha hb hc hd []
  | _ :: _ :: _ :: _ :: _ :: _ =>
      simp only [List.length_cons] at hFour
      omega

/-- Some octets are read from a text if each of its parts is read, from the left. -/
theorem decode_eq_ok_iff_parts {text octets : Bytes} (hText : text ≠ []) :
    decode text = .ok octets ↔
      ¬(text.length % 4 = 1 ∧ text.getLast hText ≠ pad ∧ value? (text.getLast hText) = none) ∧
        ∃ whole, values 0 (text.take (groupStart text.length)) = .ok whole ∧
          ∃ last, lastGroup (groupStart text.length) 0 none
              (text.drop (groupStart text.length)) = .ok last ∧
            2 ≤ last.1.length ∧ (last.1.length + last.2) % 4 = 0 ∧
            ∃ tail, finish (groupStart text.length)
                ((text.drop (groupStart text.length)).getD (last.1.length - 1) 0) last.1 =
                .ok tail ∧
              joinAll whole ++ tail = octets := by
  simp only [decode]
  rw [List.getLast?_eq_some_getLast hText]
  simp only [ite_throw_eq_ok_iff, bind_eq_ok_iff, hText, ne_eq, not_false_eq_true, true_and,
    Nat.not_lt, Decidable.not_not, pure, Except.pure, Except.ok.injEq]

/-- Only the canonical text of some octets decodes to them: missing padding and spare bits that
are set are refused. -/
theorem eq_encode_of_decode_eq {text octets : Bytes} (h : decode text = .ok octets) :
    text = encode octets := by
  by_cases hText : text = []
  · subst hText
    cases h
    rfl
  · obtain ⟨-, whole, hWhole, ⟨vs, pads⟩, hLast, hTwo, hFull, tail, hTail, hOctets⟩ :=
      (decode_eq_ok_iff_parts hText).mp h
    obtain ⟨hSextets, hFront⟩ := values_eq_ok_iff.mp hWhole
    obtain ⟨⟨hVs, hBack⟩, -⟩ := lastGroup_eq_ok_iff.mp hLast
    have hPositive := List.length_pos_iff.mpr hText
    have hStart : whole.length = groupStart text.length := by
      have := congrArg List.length hFront
      simp only [List.length_take, List.length_map, groupStart] at this ⊢
      omega
    have hLength : vs.length + pads = text.length - groupStart text.length := by
      have := congrArg List.length hBack
      simpa only [List.length_drop, List.length_append, List.length_map, List.length_replicate]
        using this.symm
    simp only [groupStart] at hStart hLength hTwo hFull
    have hFour : vs.length ≤ 4 := by omega
    have hPads : pads = 4 - vs.length := by omega
    rw [← hOctets, encode_joinAll_append hSextets (by omega),
      encode_of_finish_eq hVs hTwo hFour hTail, ← hPads, ← hBack, ← hFront, List.take_append_drop]

/-- Every octet string survives encoding and decoding, including the empty one. -/
theorem decode_encode (octets : Bytes) : decode (encode octets) = .ok octets := by
  by_cases hOctets : octets = []
  · subst hOctets
    rfl
  · obtain ⟨whole, tail, hSplit, hSextets, hGroups, hTail, hThree⟩ := exists_groups hOctets
    obtain ⟨vs, hVs, hTwo, hFour, hWritten, hFinish⟩ := exists_finish_eq hTail hThree
    have hText : encode octets = whole.map symbol ++ encode tail := by
      rw [hSplit, encode_joinAll_append hSextets hGroups]
    have hLength : (encode octets).length = whole.length + 4 := by
      rw [hText, hWritten]
      simp only [List.length_append, List.length_map, List.length_replicate]
      omega
    have hStart : groupStart (encode octets).length = (whole.map symbol).length := by
      rw [hLength, groupStart, List.length_map]
      omega
    have hNonempty : encode octets ≠ [] := List.ne_nil_of_length_pos (by omega)
    rw [decode_eq_ok_iff_parts hNonempty, hStart]
    refine ⟨by omega, whole, ?_, (vs, 4 - vs.length), ?_, hTwo, by simp only; omega, tail,
      hFinish _ _, hSplit.symm⟩
    · rw [hText, List.take_left]
      exact values_eq_ok_iff.mpr ⟨hSextets, rfl⟩
    · rw [hText, List.drop_left]
      exact lastGroup_eq_ok_iff.mpr ⟨⟨hVs, hWritten⟩, fun _ => by omega⟩

/-- Exactly what is written can be read. -/
theorem decode_eq_ok_iff {text octets : Bytes} :
    decode text = .ok octets ↔ text = encode octets := by
  constructor
  · exact eq_encode_of_decode_eq
  · intro h
    rw [h, decode_encode]

/-- The encoding is ASCII, so that it can be put into a text byte by byte. -/
theorem toNat_lt_of_mem_encode (octets : Bytes) : ∀ b ∈ encode octets, b.toNat < 0x80 := by
  have hPad : pad.toNat < 0x80 := by decide
  induction octets using encode.induct with
  | case1 => exact nofun
  | case2 | case3 => simp [encode, toNat_symbol_lt, hPad]
  | case4 x y z rest ih => simpa [encode, toNat_symbol_lt] using ih

/-- The text that is written for some octets. -/
def text (octets : Bytes) : String :=
  String.ofList ((encode octets).map fun b => Char.ofNat b.toNat)

/-- The text of some octets is the encoding read as UTF-8, nothing more. -/
theorem ofText_text (octets : Bytes) : Bytes.ofText (text octets) = encode octets := by
  rw [Bytes.ofText, text, String.toList_ofList]
  exact Utf8.encode_map_ofNat (toNat_lt_of_mem_encode octets)

theorem ofText_eq_encode_iff {s : String} {octets : Bytes} :
    Bytes.ofText s = encode octets ↔ s = text octets := by
  rw [← ofText_text, Bytes.ofText_inj]

example : text [0x66, 0x6F] = "Zm8=" := rfl

end InvocationBridge.Base64
