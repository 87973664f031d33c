import InvocationBridge.Bytes

/-!
Text written in UTF-8 reads back, whatever octets come after it.
-/

namespace InvocationBridge

namespace Utf8

@[simp] theorem encode_nil : encode [] = [] := rfl

@[simp] theorem encode_cons (c : Char) (cs : List Char) :
    encode (c :: cs) = encodeChar c ++ encode cs := List.flatMap_cons

@[simp] theorem encode_append (front back : List Char) :
    encode (front ++ back) = encode front ++ encode back := List.flatMap_append

theorem encodeChar_of_lt {c : Char} (h : c.toNat < 0x80) : encodeChar c = [c.toNat.toUInt8] := by
  simp only [encodeChar, h, if_true]

theorem encode_cons_of_lt {c : Char} (h : c.toNat < 0x80) (cs : List Char) :
    encode (c :: cs) = c.toNat.toUInt8 :: encode cs := by
  rw [encode_cons, encodeChar_of_lt h, List.singleton_append]

theorem toNat_toUInt8 {n : Nat} (h : n < 256) : n.toUInt8.toNat = n :=
  UInt8.toNat_ofNat_of_lt' h

theorem toNat_char {n : Nat} (h : n < 0x80) : (Char.ofNat n).toNat = n := by
  rw [Char.ofNat, dif_pos (.inl (by omega))]
  rfl

/-- Octets of ASCII are what is written for the characters that they number. -/
theorem encode_map_ofNat {octets : Bytes} (h : ∀ b ∈ octets, b.toNat < 0x80) :
    encode (octets.map fun b => Char.ofNat b.toNat) = octets := by
  induction octets with
  | nil => rfl
  | cons b rest ih =>
      obtain ⟨hFirst, hRest⟩ := List.forall_mem_cons.mp h
      have hChar : (Char.ofNat b.toNat).toNat = b.toNat := toNat_char hFirst
      rw [List.map_cons, encode_cons_of_lt (by omega), hChar, ih hRest]
      exact congrArg (· :: rest) UInt8.ofNat_toNat

/-- Characters of ASCII are written as the octets that number them. -/
theorem encode_eq_map {cs : List Char} (h : ∀ c ∈ cs, c.toNat < 0x80) :
    encode cs = cs.map fun c => c.toNat.toUInt8 := by
  induction cs with
  | nil => rfl
  | cons c cs ih =>
      obtain ⟨hFirst, hRest⟩ := List.forall_mem_cons.mp h
      rw [encode_cons_of_lt hFirst, ih hRest, List.map_cons]

theorem width_one {a : UInt8} (h : a.toNat < 0x80) : width a = 1 := by
  simp only [width, UInt8.lt_iff_toNat_lt, UInt8.reduceToNat]
  grind

theorem width_two {a : UInt8} (hLower : 0xC2 ≤ a.toNat) (hUpper : a.toNat < 0xE0) :
    width a = 2 := by
  simp only [width, UInt8.lt_iff_toNat_lt, UInt8.reduceToNat]
  grind

theorem width_three {a : UInt8} (hLower : 0xE0 ≤ a.toNat) (hUpper : a.toNat < 0xF0) :
    width a = 3 := by
  simp only [width, UInt8.lt_iff_toNat_lt, UInt8.reduceToNat]
  grind

theorem width_four {a : UInt8} (hLower : 0xF0 ≤ a.toNat) (hUpper : a.toNat < 0xF5) :
    width a = 4 := by
  simp only [width, UInt8.lt_iff_toNat_lt, UInt8.reduceToNat]
  grind

theorem isContinuation_iff (b : UInt8) :
    isContinuation b = true ↔ 0x80 ≤ b.toNat ∧ b.toNat < 0xC0 := by
  simp [isContinuation, UInt8.lt_iff_toNat_lt, UInt8.le_iff_toNat_le]

/-- What may follow a lead byte: a continuation byte that neither makes the form overlong, nor a
surrogate, nor too large a scalar. -/
theorem mayFollow_iff (lead b : UInt8) :
    mayFollow lead b = true ↔ 0x80 ≤ b.toNat ∧ b.toNat < 0xC0 ∧
      (lead.toNat = 0xE0 → 0xA0 ≤ b.toNat) ∧ (lead.toNat = 0xED → b.toNat < 0xA0) ∧
      (lead.toNat = 0xF0 → 0x90 ≤ b.toNat) ∧ (lead.toNat = 0xF4 → b.toNat < 0x90) := by
  simp only [mayFollow, isContinuation, UInt8.lt_iff_toNat_lt, UInt8.le_iff_toNat_le,
    ← UInt8.toNat_inj, UInt8.reduceToNat]
  grind

theorem pieces_one {a : UInt8} (h : width a = 1) (rest : Bytes) :
    pieces (a :: rest) = some (Char.ofNat a.toNat) :: pieces rest := by
  rw [pieces.eq_def]
  simp only [h]

theorem pieces_two {a b : UInt8} (h : width a = 2) (hFollow : mayFollow a b = true)
    (rest : Bytes) :
    pieces (a :: b :: rest) = some (Char.ofNat (extend (a.toNat % 0x20) b)) :: pieces rest := by
  rw [pieces.eq_def]
  simp only [h, hFollow, if_true]

theorem pieces_three {a b c : UInt8} (h : width a = 3) (hFollow : mayFollow a b = true)
    (hLast : isContinuation c = true) (rest : Bytes) :
    pieces (a :: b :: c :: rest) =
      some (Char.ofNat (extend (extend (a.toNat % 0x10) b) c)) :: pieces rest := by
  rw [pieces.eq_def]
  simp only [h, hFollow, hLast, if_true]

/-- Four bytes that belong together make one scalar; the lemmas before it are those
for fewer bytes. -/
theorem pieces_four {a b c d : UInt8} (h : width a = 4) (hFollow : mayFollow a b = true)
    (hThird : isContinuation c = true) (hLast : isContinuation d = true) (rest : Bytes) :
    pieces (a :: b :: c :: d :: rest) =
      some (Char.ofNat (extend (extend (extend (a.toNat % 0x08) b) c) d)) :: pieces rest := by
  rw [pieces.eq_def]
  simp only [h, hFollow, hThird, hLast, if_true]

/-- Characters are scalars: surrogates are none. -/
theorem toNat_lt_of_char (c : Char) : c.toNat < 0xD800 ∨ 0xDFFF < c.toNat ∧ c.toNat < 0x110000 :=
  c.valid

/-- Beyond ASCII no octet of a character is in ASCII. -/
theorem le_of_mem_encodeChar {c : Char} (h : 0x80 ≤ c.toNat) {b : UInt8} (hMem : b ∈ encodeChar c) :
    0x80 ≤ b.toNat := by
  have hUpper : c.toNat < 0x110000 := by have := toNat_lt_of_char c; omega
  simp only [encodeChar, if_neg (show ¬ c.toNat < 0x80 by omega)] at hMem
  split at hMem
  · simp only [List.mem_cons, List.not_mem_nil, or_false] at hMem
    rcases hMem with rfl | rfl <;> rw [toNat_toUInt8 (by omega)] <;> omega
  · split at hMem
    · simp only [List.mem_cons, List.not_mem_nil, or_false] at hMem
      rcases hMem with rfl | rfl | rfl <;> rw [toNat_toUInt8 (by omega)] <;> omega
    · simp only [List.mem_cons, List.not_mem_nil, or_false] at hMem
      rcases hMem with rfl | rfl | rfl | rfl <;> rw [toNat_toUInt8 (by omega)] <;> omega

/-- One written character is the first piece of what is read. -/
theorem pieces_encodeChar_append (c : Char) (rest : Bytes) :
    pieces (encodeChar c ++ rest) = some c :: pieces rest := by
  have hValid := toNat_lt_of_char c
  obtain ⟨n, hn⟩ : ∃ n, c.toNat = n := ⟨_, rfl⟩
  have hChar : Char.ofNat n = c := hn ▸ Char.ofNat_toNat c
  rw [hn] at hValid
  simp only [encodeChar, hn]
  split
  · have hLead := toNat_toUInt8 (show n < 256 by omega)
    rw [List.singleton_append, pieces_one (width_one (by omega)), hLead, hChar]
  · split
    · have hLead := toNat_toUInt8 (show 0xC0 + n / 0x40 < 256 by omega)
      have hNext := toNat_toUInt8 (show 0x80 + n % 0x40 < 256 by omega)
      rw [List.cons_append, List.singleton_append, pieces_two (width_two (by omega) (by omega))
        ((mayFollow_iff ..).mpr (by omega)), extend, hLead, hNext]
      have hValue : (0xC0 + n / 0x40) % 0x20 * 0x40 + (0x80 + n % 0x40) % 0x40 = n := by omega
      rw [hValue, hChar]
    · split
      · have hLead := toNat_toUInt8 (show 0xE0 + n / 0x1000 < 256 by omega)
        have hNext := toNat_toUInt8 (show 0x80 + n / 0x40 % 0x40 < 256 by omega)
        have hLast := toNat_toUInt8 (show 0x80 + n % 0x40 < 256 by omega)
        rw [List.cons_append, List.cons_append, List.singleton_append,
          pieces_three (width_three (by omega) (by omega)) ((mayFollow_iff ..).mpr (by omega))
            ((isContinuation_iff _).mpr (by omega)), extend, extend, hLead, hNext, hLast]
        have hValue : ((0xE0 + n / 0x1000) % 0x10 * 0x40 + (0x80 + n / 0x40 % 0x40) % 0x40) * 0x40 +
            (0x80 + n % 0x40) % 0x40 = n := by omega
        rw [hValue, hChar]
      · have hLead := toNat_toUInt8 (show 0xF0 + n / 0x40000 < 256 by omega)
        have hNext := toNat_toUInt8 (show 0x80 + n / 0x1000 % 0x40 < 256 by omega)
        have hThird := toNat_toUInt8 (show 0x80 + n / 0x40 % 0x40 < 256 by omega)
        have hLast := toNat_toUInt8 (show 0x80 + n % 0x40 < 256 by omega)
        rw [List.cons_append, List.cons_append, List.cons_append, List.singleton_append,
          pieces_four (width_four (by omega) (by omega)) ((mayFollow_iff ..).mpr (by omega))
            ((isContinuation_iff _).mpr (by omega)) ((isContinuation_iff _).mpr (by omega)),
          extend, extend, extend, hLead, hNext, hThird, hLast]
        have hValue : (((0xF0 + n / 0x40000) % 0x08 * 0x40 + (0x80 + n / 0x1000 % 0x40) % 0x40) *
            0x40 + (0x80 + n / 0x40 % 0x40) % 0x40) * 0x40 + (0x80 + n % 0x40) % 0x40 = n := by
          omega
        rw [hValue, hChar]

/-- Encoded text is read in whole pieces. The cases are those of the encoder, by the size
of the scalar. -/
theorem pieces_encode (cs : List Char) : pieces (encode cs) = cs.map some := by
  induction cs with
  | nil => rfl
  | cons c cs ih =>
      rw [encode_cons, pieces_encodeChar_append, ih, List.map_cons]

@[simp] theorem decode?_encode (cs : List Char) : decode? (encode cs) = some cs := by
  rw [decode?, pieces_encode]
  induction cs with
  | nil => rfl
  | cons c cs ih => simp [ih]

theorem encode_inj {cs ds : List Char} : encode cs = encode ds ↔ cs = ds := by
  constructor
  · intro h
    simpa using congrArg decode? h
  · intro h
    rw [h]

@[simp] theorem decodeLossy_encode (cs : List Char) : decodeLossy (encode cs) = cs := by
  simp [decodeLossy, pieces_encode, Function.comp_def]

end Utf8

namespace Bytes

/-- The bytes of a text are valid, and are read as that text. -/
@[simp] theorem text?_ofText (s : String) : (ofText s).text? = some s := by
  simp [ofText, text?]

theorem ofText_inj {s t : String} : ofText s = ofText t ↔ s = t := by
  constructor
  · intro h
    simpa using congrArg text? h
  · intro h
    rw [h]

/-- Nothing of a text is lost, even by the lossy reading. -/
@[simp] theorem textLossy_ofText (s : String) : (ofText s).textLossy = s := by
  simp [ofText, textLossy]

end Bytes

end InvocationBridge
