import InvocationBridge.Proofs.Hex
import InvocationBridge.Uuid

/-!
The spellings of an identifier.

A text is read as an identifier exactly if it is one of four forms of it, whatever the case of its
letters. Reading goes octet by octet, so lower case is first carried over from characters to octets,
and then through each stage of the reader.
-/

namespace InvocationBridge.Uuid

section Case

theorem toNat_lowered (b : UInt8) :
    (lowered b).toNat = if 0x41 ≤ b.toNat ∧ b.toNat ≤ 0x5A then b.toNat + 0x20 else b.toNat := by
  simp only [lowered, UInt8.le_iff_toNat_le, UInt8.reduceToNat]
  split
  · simp only [UInt8.toNat_add, UInt8.reduceToNat]
    omega
  · rfl

theorem toNat_toLower (c : Char) :
    c.toLower.toNat = if 0x41 ≤ c.toNat ∧ c.toNat ≤ 0x5A then c.toNat + 0x20 else c.toNat := by
  have hFirst : 'A'.toNat = 0x41 := rfl
  have hLast : 'Z'.toNat = 0x5A := rfl
  have hStep : ('a'.val - 'A'.val).toNat = 0x20 := rfl
  delta Char.toLower
  simp only [ge_iff_le, UInt32.le_iff_toNat_le, Char.toNat_val, hFirst, hLast]
  split
  · rw [← Char.toNat_val, UInt32.toNat_add, hStep, Char.toNat_val]
    omega
  · rfl

theorem lowered_of_le {b : UInt8} (h : 0x80 ≤ b.toNat) : lowered b = b := by
  rw [← UInt8.toNat_inj, toNat_lowered, if_neg (by omega)]

theorem map_lowered_encodeChar (c : Char) :
    (Utf8.encodeChar c).map lowered = Utf8.encodeChar c.toLower := by
  by_cases hAscii : c.toNat < 0x80
  · have hLower : c.toLower.toNat < 0x80 := by
      rw [toNat_toLower]
      grind
    rw [Utf8.encodeChar_of_lt hAscii, Utf8.encodeChar_of_lt hLower, List.map_singleton,
      List.singleton_inj, ← UInt8.toNat_inj, toNat_lowered, Utf8.toNat_toUInt8 (by omega),
      Utf8.toNat_toUInt8 (by omega), toNat_toLower]
  · have hSame : c.toLower = c := by
      rw [← Char.toNat_inj, toNat_toLower, if_neg (by omega)]
    have hKept : ∀ b ∈ Utf8.encodeChar c, lowered b = id b :=
      fun b hMem => lowered_of_le (Utf8.le_of_mem_encodeChar (by omega) hMem)
    rw [hSame, List.map_congr_left hKept, List.map_id]

/-- Lower case commutes with the encoding. Only ASCII letters change, and these are
one byte each. -/
theorem map_lowered_encode (cs : List Char) :
    (Utf8.encode cs).map lowered = Utf8.encode (cs.map Char.toLower) := by
  induction cs with
  | nil => rfl
  | cons c cs ih =>
      rw [Utf8.encode_cons, List.map_append, map_lowered_encodeChar, ih, List.map_cons,
        Utf8.encode_cons]

end Case

section Digits

/-- A digit is read exactly if it is, in either case, the one that is written. -/
theorem value?_eq_some_iff {b : UInt8} {n : Nat} :
    Hex.value? b = some n ↔ n < 16 ∧ lowered b = (Hex.digit n).toNat.toUInt8 := by
  have hWritten (h : n < 16) : lowered b = (Hex.digit n).toNat.toUInt8 ↔
      (lowered b).toNat = if n < 10 then 0x30 + n else 0x57 + n := by
    rw [← UInt8.toNat_inj, Hex.toNat_digit h, Utf8.toNat_toUInt8 (by grind)]
  rw [and_congr_right hWritten, toNat_lowered]
  simp only [Hex.value?, UInt8.le_iff_toNat_le, UInt8.reduceToNat]
  grind

/-- Octets are read exactly from the digits that are written for them, in either case. -/
theorem toBytes?_eq_some_iff {digits octets : Bytes} :
    Hex.toBytes? digits = some octets ↔
      digits.map lowered = Utf8.encode (Hex.ofBytes octets) := by
  induction digits using Hex.toBytes?.induct generalizing octets with
  | case1 => cases octets with
    | nil => simp [Hex.toBytes?, Hex.ofBytes]
    | cons octet octets => simp [Hex.toBytes?, Hex.encode_ofBytes_cons]
  | case2 digit => cases octets with
    | nil => simp [Hex.toBytes?, Hex.ofBytes]
    | cons octet octets => simp [Hex.toBytes?, Hex.encode_ofBytes_cons]
  | case3 high low rest ih => cases octets with
    | nil => simp [Hex.toBytes?, Hex.ofBytes, Option.bind_eq_some_iff]
    | cons octet octets =>
        have hRange := octet.toNat_lt
        simp only [Hex.toBytes?, Hex.encode_ofBytes_cons, Option.bind_eq_bind, Option.pure_def,
          Option.bind_eq_some_iff, value?_eq_some_iff, ih, Option.some.injEq, List.cons.injEq,
          List.map_cons]
        constructor
        · rintro ⟨h, ⟨hBound, hHigh⟩, l, ⟨hBound', hLow⟩, _, hRest, rfl, rfl⟩
          have hValue := Utf8.toNat_toUInt8 (show h * 16 + l < 256 by omega)
          rw [hValue, show (h * 16 + l) / 16 = h by omega, show (h * 16 + l) % 16 = l by omega]
          exact ⟨hHigh, hLow, hRest⟩
        · rintro ⟨hHigh, hLow, hRest⟩
          refine ⟨octet.toNat / 16, ⟨by omega, hHigh⟩, octet.toNat % 16, ⟨by omega, hLow⟩, octets,
            hRest, ?_, rfl⟩
          rw [Nat.div_add_mod']
          exact UInt8.ofNat_toNat

end Digits

section Hyphens

variable {α β : Type}

/-- The groups of 32 digits, with hyphens between them. -/
def hyphenate (hyphen : α) (digits : List α) : List α :=
  digits.take 8 ++ hyphen :: (digits.drop 8).take 4 ++ hyphen :: (digits.drop 12).take 4 ++
    hyphen :: (digits.drop 16).take 4 ++ hyphen :: digits.drop 20

theorem map_hyphenate (f : α → β) (hyphen : α) (digits : List α) :
    (hyphenate hyphen digits).map f = hyphenate (f hyphen) (digits.map f) := by
  simp only [hyphenate, List.map_append, List.map_cons, List.map_take, List.map_drop]

theorem mem_hyphenate {hyphen a : α} {digits : List α} (h : a ∈ hyphenate hyphen digits) :
    a = hyphen ∨ a ∈ digits := by
  have hTake {i count : Nat} (h : a ∈ (digits.drop i).take count) : a ∈ digits :=
    List.mem_of_mem_drop (List.mem_of_mem_take h)
  simp only [hyphenate, List.mem_append, List.mem_cons] at h
  rcases h with (((h | h | h) | h | h) | h | h) | h | h
  · exact .inr (List.mem_of_mem_take h)
  · exact .inl h
  · exact .inr (hTake h)
  · exact .inl h
  · exact .inr (hTake h)
  · exact .inl h
  · exact .inr (hTake h)
  · exact .inl h
  · exact .inr (List.mem_of_mem_drop h)

theorem length_hyphenate {hyphen : α} {digits : List α} (h : digits.length = 32) :
    (hyphenate hyphen digits).length = 36 := by
  simp [hyphenate, h]

theorem take_append_drop_add (text : List α) (i count : Nat) :
    (text.drop i).take count ++ text.drop (i + count) = text.drop i := by
  rw [← List.drop_drop, List.take_append_drop]

theorem take_append_cons_drop {text : List α} {i count : Nat} {a : α}
    (h : text[i + count]? = some a) :
    (text.drop i).take count ++ a :: text.drop (i + count + 1) = text.drop i := by
  obtain ⟨hRange, rfl⟩ := List.getElem?_eq_some_iff.mp h
  rw [← List.drop_eq_getElem_cons hRange, take_append_drop_add]

/-- Hyphens are taken out only from where they are put in. -/
theorem unhyphenate?_eq_some_iff {text digits : Bytes} :
    unhyphenate? text = some digits ↔ digits.length = 32 ∧ text = hyphenate 0x2D digits := by
  simp only [unhyphenate?, beq_iff_eq]
  constructor
  · intro h
    split at h
    · next hText =>
        obtain ⟨hLength, hFirst, hSecond, hThird, hLast⟩ := hText
        cases h
        refine ⟨by simp [hLength], ?_⟩
        have hRest₄ : (text.drop 19).take 4 ++ 0x2D :: text.drop 24 = text.drop 19 :=
          take_append_cons_drop hLast
        have hRest₃ : (text.drop 14).take 4 ++ 0x2D :: text.drop 19 = text.drop 14 :=
          take_append_cons_drop hThird
        have hRest₂ : (text.drop 9).take 4 ++ 0x2D :: text.drop 14 = text.drop 9 :=
          take_append_cons_drop hSecond
        have hRest₁ : text.take 8 ++ 0x2D :: text.drop 9 = text :=
          take_append_cons_drop (i := 0) hFirst
        calc text
          _ = text.take 8 ++ 0x2D :: ((text.drop 9).take 4 ++ 0x2D :: ((text.drop 14).take 4 ++
                0x2D :: ((text.drop 19).take 4 ++ 0x2D :: text.drop 24))) := by
              rw [hRest₄, hRest₃, hRest₂, hRest₁]
          _ = hyphenate 0x2D _ := by
              simp [hyphenate, hLength, List.drop_append, List.drop_take]
    · cases h
  · rintro ⟨hLength, rfl⟩
    rw [if_pos (by simp [hyphenate, hLength])]
    apply congrArg some
    calc _
      _ = digits.take 8 ++ ((digits.drop 8).take 4 ++ ((digits.drop 12).take 4 ++
            ((digits.drop 16).take 4 ++ digits.drop 20))) := by
          simp [hyphenate, hLength, List.drop_append, List.drop_take]
      _ = digits := by
          rw [take_append_drop_add digits 16 4, take_append_drop_add digits 12 4,
            take_append_drop_add digits 8 4, List.take_append_drop]

end Hyphens

section Frames

theorem unbrace?_eq_some_iff {text inner : Bytes} :
    unbrace? text = some inner ↔ text = 0x7B :: (inner ++ [0x7D]) := by
  constructor
  · intro h
    unfold unbrace? at h
    split at h
    · next rest =>
        split at h
        · next hLast =>
            obtain ⟨front, rfl⟩ := List.getLast?_eq_some_iff.mp hLast
            rw [List.dropLast_concat] at h
            cases h
            rfl
        · cases h
    · cases h
  · rintro rfl
    rw [unbrace?, if_pos List.getLast?_concat, List.dropLast_concat]

/-- A prefix is recognized in either case and dropped as it is written. -/
theorem dropStart?_eq_some_iff {start text rest : Bytes} :
    dropStart? start text = some rest ↔
      ∃ front, front.map lowered = start ∧ text = front ++ rest := by
  induction start generalizing text with
  | nil => simp [dropStart?]
  | cons a start ih => cases text with
    | nil =>
        constructor
        · nofun
        · rintro ⟨front, hFront, hText⟩
          rw [(List.append_eq_nil_iff.mp hText.symm).1] at hFront
          cases hFront
    | cons b text =>
        simp only [dropStart?, List.map_eq_cons_iff]
        constructor
        · intro h
          split at h
          · next hSame =>
              obtain ⟨front, hFront, rfl⟩ := ih.mp h
              exact ⟨b :: front, ⟨b, front, rfl, hSame.symm, hFront⟩, rfl⟩
          · cases h
        · rintro ⟨_, ⟨_, front, rfl, hSame, hFront⟩, hText⟩
          cases hText
          rw [if_pos hSame.symm]
          exact ih.mpr ⟨front, hFront, rfl⟩

/-- What is read as the digits of an identifier: the four forms. -/
theorem digits?_eq_some_iff {text digits : Bytes} :
    digits? text = some digits ↔ digits.length = 32 ∧
      (text = digits ∨ text = hyphenate 0x2D digits ∨
        text = 0x7B :: (hyphenate 0x2D digits ++ [0x7D]) ∨
        ∃ front, front.map lowered = Bytes.ofText "urn:uuid:" ∧
          text = front ++ hyphenate 0x2D digits) := by
  have hUrn : (Bytes.ofText "urn:uuid:").length = 9 := by decide
  constructor
  · intro h
    unfold digits? at h
    split at h
    · next hBare =>
        cases h
        exact ⟨hBare, .inl rfl⟩
    · split at h
      · obtain ⟨hLength, hText⟩ := unhyphenate?_eq_some_iff.mp h
        exact ⟨hLength, .inr (.inl hText)⟩
      · split at h
        · obtain ⟨inner, hInner, hDigits⟩ := Option.bind_eq_some_iff.mp h
          obtain ⟨hLength, rfl⟩ := unhyphenate?_eq_some_iff.mp hDigits
          exact ⟨hLength, .inr (.inr (.inl (unbrace?_eq_some_iff.mp hInner)))⟩
        · split at h
          · obtain ⟨rest, hRest, hDigits⟩ := Option.bind_eq_some_iff.mp h
            obtain ⟨hLength, rfl⟩ := unhyphenate?_eq_some_iff.mp hDigits
            exact ⟨hLength, .inr (.inr (.inr (dropStart?_eq_some_iff.mp hRest)))⟩
          · cases h
  · rintro ⟨hLength, hText⟩
    have hRead : unhyphenate? (hyphenate 0x2D digits) = some digits :=
      unhyphenate?_eq_some_iff.mpr ⟨hLength, rfl⟩
    have hHyphenated : (hyphenate 0x2D digits).length = 36 := length_hyphenate hLength
    unfold digits?
    rcases hText with rfl | rfl | rfl | ⟨front, hFront, rfl⟩
    · rw [if_pos hLength]
    · rw [if_neg (by omega), if_pos hHyphenated, hRead]
    · have hTotal : (0x7B :: (hyphenate 0x2D digits ++ [0x7D])).length = 38 := by
        rw [List.length_cons, List.length_append, hHyphenated, List.length_singleton]
      rw [if_neg (by omega), if_neg (by omega), if_pos hTotal, unbrace?_eq_some_iff.mpr rfl]
      exact hRead
    · have hTotal : (front ++ hyphenate 0x2D digits).length = 45 := by
        rw [List.length_append, hHyphenated, ← List.length_map (f := lowered), hFront, hUrn]
      rw [if_neg (by omega), if_neg (by omega), if_neg (by omega), if_pos hTotal,
        dropStart?_eq_some_iff.mpr ⟨front, hFront, rfl⟩]
      exact hRead

end Frames

section Forms

/-- Only letters have another lower case. -/
theorem lowered_eq_iff {a b : UInt8} (h : b.toNat < 0x41 ∨ 0x7A < b.toNat) :
    lowered a = b ↔ a = b := by
  rw [← UInt8.toNat_inj, ← UInt8.toNat_inj, toNat_lowered]
  grind

/-- Hyphens are found regardless of the case around them. -/
theorem unhyphenate?_map_lowered (text : Bytes) :
    unhyphenate? (text.map lowered) = (unhyphenate? text).map (List.map lowered) := by
  have hHyphen (i : Nat) : (text.map lowered)[i]? = some 0x2D ↔ text[i]? = some 0x2D := by
    simp [List.getElem?_map, lowered_eq_iff (b := 0x2D) (.inl (by decide))]
  simp only [unhyphenate?, beq_iff_eq, hHyphen, List.length_map]
  split
  · simp only [Option.map_some, List.map_append, List.map_take, List.map_drop]
  · rfl

/-- What is hyphenated in lower case was hyphenated before. -/
theorem exists_hyphenate_of_map {text digits : Bytes} (hLength : digits.length = 32)
    (h : text.map lowered = hyphenate 0x2D digits) :
    ∃ read, read.length = 32 ∧ text = hyphenate 0x2D read ∧ read.map lowered = digits := by
  have hDigits := unhyphenate?_eq_some_iff.mpr ⟨hLength, h⟩
  rw [unhyphenate?_map_lowered] at hDigits
  obtain ⟨read, hRead, hLowered⟩ := Option.map_eq_some_iff.mp hDigits
  obtain ⟨hRead, hText⟩ := unhyphenate?_eq_some_iff.mp hRead
  exact ⟨read, hRead, hText, hLowered⟩

/-- The forms of some digits, in lower case. -/
def formsOf (digits : Bytes) : List Bytes :=
  [digits, hyphenate 0x2D digits, 0x7B :: (hyphenate 0x2D digits ++ [0x7D]),
    Bytes.ofText "urn:uuid:" ++ hyphenate 0x2D digits]

/-- Whatever digits are read from a text, the text is one of their four forms. -/
theorem mem_formsOf_of_digits? {text read : Bytes} (h : digits? text = some read) :
    text.map lowered ∈ formsOf (read.map lowered) := by
  have hHyphen : lowered 0x2D = 0x2D := by decide
  have hMap : (hyphenate 0x2D read).map lowered = hyphenate 0x2D (read.map lowered) := by
    rw [map_hyphenate, hHyphen]
  simp only [formsOf, List.mem_cons, List.not_mem_nil, or_false]
  obtain ⟨-, rfl | rfl | rfl | ⟨front, hFront, rfl⟩⟩ := digits?_eq_some_iff.mp h
  · exact .inl rfl
  · exact .inr (.inl hMap)
  · refine .inr (.inr (.inl ?_))
    rw [List.map_cons, List.map_append, hMap]
    rfl
  · refine .inr (.inr (.inr ?_))
    rw [List.map_append, hFront, hMap]

/-- Digits can be read from each of their four forms, in any case. -/
theorem exists_digits?_of_mem_formsOf {text digits : Bytes} (hLength : digits.length = 32)
    (h : text.map lowered ∈ formsOf digits) :
    ∃ read, digits? text = some read ∧ read.map lowered = digits := by
  simp only [digits?_eq_some_iff]
  simp only [formsOf, List.mem_cons, List.not_mem_nil, or_false] at h
  rcases h with h | h | h | h
  · exact ⟨text, ⟨by rw [← List.length_map (f := lowered), h, hLength], .inl rfl⟩, h⟩
  · obtain ⟨read, hRead, rfl, hLowered⟩ := exists_hyphenate_of_map hLength h
    exact ⟨read, ⟨hRead, .inr (.inl rfl)⟩, hLowered⟩
  · obtain ⟨first, rest, rfl, hFirst, hRest⟩ := List.map_eq_cons_iff.mp h
    obtain ⟨inner, close, rfl, hInner, hClose⟩ := List.map_eq_append_iff.mp hRest
    obtain ⟨last, rfl, hLast⟩ := List.map_eq_singleton_iff.mp hClose
    obtain ⟨read, hRead, rfl, hLowered⟩ := exists_hyphenate_of_map hLength hInner
    rw [lowered_eq_iff (.inr (by decide))] at hFirst hLast
    subst hFirst hLast
    exact ⟨read, ⟨hRead, .inr (.inr (.inl rfl))⟩, hLowered⟩
  · obtain ⟨front, rest, rfl, hFront, hRest⟩ := List.map_eq_append_iff.mp h
    obtain ⟨read, hRead, rfl, hLowered⟩ := exists_hyphenate_of_map hLength hRest
    exact ⟨read, ⟨hRead, .inr (.inr (.inr ⟨front, hFront, rfl⟩))⟩, hLowered⟩

/-- Reading a text for some digits is finding it among their forms, in either case. -/
theorem exists_digits?_iff {text digits : Bytes} (hLength : digits.length = 32) :
    (∃ read, digits? text = some read ∧ read.map lowered = digits) ↔
      text.map lowered ∈ formsOf digits := by
  constructor
  · rintro ⟨read, hRead, rfl⟩
    exact mem_formsOf_of_digits? hRead
  · exact exists_digits?_of_mem_formsOf hLength

end Forms

section Spelling

theorem toChars_eq (u : Uuid) : u.toChars = hyphenate '-' (Hex.ofBytes u.octets) := by
  have hLength := u.length_eq
  have hGroup (start count : Nat) (h : start + count ≤ 16) :
      ((Hex.ofBytes u.octets).drop (2 * start)).take (2 * count) =
        Hex.ofBytes ((u.octets.drop start).take count) := by
    rw [Hex.drop_ofBytes (by omega), Hex.take_ofBytes (by rw [List.length_drop]; omega)]
  have hLast : (Hex.ofBytes u.octets).drop 20 = Hex.ofBytes ((u.octets.drop 10).take 6) := by
    rw [List.take_of_length_le (by rw [List.length_drop]; omega)]
    exact Hex.drop_ofBytes (show 10 ≤ u.octets.length by omega)
  have hFirst : (Hex.ofBytes u.octets).take 8 = Hex.ofBytes ((u.octets.drop 0).take 4) :=
    hGroup 0 4 (by omega)
  rw [hyphenate, hFirst, hLast, hGroup 4 2 (by omega), hGroup 6 2 (by omega),
    hGroup 8 2 (by omega)]
  rfl

/-- What an identifier is written with: hyphens and digits in lower case. -/
theorem hyphen_or_digit_of_mem {u : Uuid} {c : Char} (h : c ∈ u.toChars) :
    c = '-' ∨ ∃ n < 16, c = Hex.digit n := by
  rw [toChars_eq] at h
  exact (mem_hyphenate h).imp id Hex.exists_digit_of_mem

theorem toNat_lt_of_mem_toChars {u : Uuid} {c : Char} (h : c ∈ u.toChars) : c.toNat < 0x80 := by
  rcases hyphen_or_digit_of_mem h with rfl | ⟨n, hRange, rfl⟩
  · decide
  · exact Hex.toNat_digit_lt hRange

/-- Identifiers are written in lower case. -/
theorem toLower_of_mem_toChars {u : Uuid} {c : Char} (h : c ∈ u.toChars) : c.toLower = c := by
  rcases hyphen_or_digit_of_mem h with rfl | ⟨n, hRange, rfl⟩
  · rfl
  · rw [← Char.toNat_inj, toNat_toLower, Hex.toNat_digit hRange]
    grind

theorem encode_toChars (u : Uuid) :
    Utf8.encode u.toChars = hyphenate 0x2D (Utf8.encode (Hex.ofBytes u.octets)) := by
  rw [Utf8.encode_eq_map fun c => toNat_lt_of_mem_toChars, Hex.encode_ofBytes, toChars_eq,
    map_hyphenate]
  rfl

/-- The four forms of an identifier: bare digits, and hyphenated alone, in braces or as a URN. -/
def forms (u : Uuid) : List (List Char) :=
  [Hex.ofBytes u.octets, u.toChars, '\x7b' :: (u.toChars ++ ['\x7d']),
    "urn:uuid:".toList ++ u.toChars]

/-- A text is one of the forms of an identifier, but for the case of its letters. -/
def Spells (text : String) (u : Uuid) : Prop := text.toList.map Char.toLower ∈ u.forms

instance (text : String) (u : Uuid) : Decidable (Spells text u) :=
  inferInstanceAs (Decidable (_ ∈ _))

/-- The forms of an identifier, octet by octet. -/
theorem map_encode_forms (u : Uuid) :
    u.forms.map Utf8.encode = formsOf (Utf8.encode (Hex.ofBytes u.octets)) := by
  have hOpen : ('\x7b').toNat < 0x80 := by decide
  simp only [forms, formsOf, List.map_cons, List.map_nil, Utf8.encode_append,
    Utf8.encode_cons_of_lt hOpen, encode_toChars]
  rfl

/-- Sixteen octets make an identifier, and no other number of them does. -/
theorem ofOctets?_eq_some_iff {octets : Bytes} {u : Uuid} :
    ofOctets? octets = some u ↔ octets = u.octets := by
  rw [ofOctets?]
  constructor
  · intro h
    split at h <;> cases h
    rfl
  · rintro rfl
    rw [dif_pos u.length_eq]

/-- A text is read as an identifier exactly if it spells it. -/
theorem parse?_eq_some_iff {text : String} {u : Uuid} : parse? text = some u ↔ Spells text u := by
  have hLength : (Utf8.encode (Hex.ofBytes u.octets)).length = 32 := by
    rw [Hex.encode_ofBytes, List.length_map, Hex.length_ofBytes, u.length_eq]
  calc parse? text = some u
    _ ↔ ∃ read, digits? (Bytes.ofText text) = some read ∧
          read.map lowered = Utf8.encode (Hex.ofBytes u.octets) := by
        simp [parse?, Option.bind_eq_some_iff, ofOctets?_eq_some_iff, toBytes?_eq_some_iff]
    _ ↔ (Bytes.ofText text).map lowered ∈ formsOf (Utf8.encode (Hex.ofBytes u.octets)) :=
        exists_digits?_iff hLength
    _ ↔ Utf8.encode (text.toList.map Char.toLower) ∈ u.forms.map Utf8.encode := by
        rw [map_encode_forms, Bytes.ofText, map_lowered_encode]
    _ ↔ Spells text u := by
        simp [Spells, Utf8.encode_inj]

theorem parse?_eq_none_iff {text : String} : parse? text = none ↔ ∀ u, ¬Spells text u := by
  rw [Option.eq_none_iff_forall_ne_some]
  exact forall_congr' fun u => not_congr parse?_eq_some_iff

theorem eq_of_spells {text : String} {u v : Uuid} (hu : Spells text u) (hv : Spells text v) :
    u = v :=
  Option.some.inj ((parse?_eq_some_iff.mpr hu).symm.trans (parse?_eq_some_iff.mpr hv))

/-- The canonical form of an identifier: of its spellings the one in 36 characters, of which the
letters are in lower case. -/
structure IsCanonical (text : String) (u : Uuid) : Prop where
  spells : Spells text u
  length : text.toList.length = 36
  lower : ∀ c ∈ text.toList, c.toLower = c

/-- What an identifier is written as is its canonical form. -/
theorem isCanonical_toString (u : Uuid) : IsCanonical u.toString u := by
  have hChars : u.toString.toList = u.toChars := String.toList_ofList
  have hLower : u.toChars.map Char.toLower = u.toChars :=
    (List.map_congr_left fun c => toLower_of_mem_toChars).trans (List.map_id _)
  refine ⟨?_, ?_, fun c hc => toLower_of_mem_toChars (hChars ▸ hc)⟩
  · rw [Spells, hChars, hLower]
    simp [forms]
  · rw [hChars, toChars_eq, length_hyphenate (by rw [Hex.length_ofBytes, u.length_eq])]

/-- The length tells the canonical form from the other three. -/
theorem IsCanonical.eq_toString {text : String} {u : Uuid} (h : IsCanonical text u) :
    text = u.toString := by
  have hLower : text.toList.map Char.toLower = text.toList :=
    (List.map_congr_left h.lower).trans (List.map_id _)
  have hBare : (Hex.ofBytes u.octets).length = 32 := by rw [Hex.length_ofBytes, u.length_eq]
  have hHyphenated : u.toChars.length = 36 := by rw [toChars_eq, length_hyphenate hBare]
  have hSpells := h.spells
  have hLength := h.length
  rw [Spells, hLower] at hSpells
  simp only [forms, List.mem_cons, List.not_mem_nil, or_false] at hSpells
  rcases hSpells with hForm | hForm | hForm | hForm
  · rw [hForm, hBare] at hLength
    cases hLength
  · rw [toString, ← hForm, String.ofList_toList]
  · simp [hForm, hHyphenated] at hLength
  · simp [hForm, hHyphenated] at hLength

/-- No identifier is written as the empty text, which stands for none. -/
theorem toString_ne_empty (u : Uuid) : u.toString ≠ "" := by
  intro h
  have hLength := u.isCanonical_toString.length
  rw [h] at hLength
  cases hLength

end Spelling

end InvocationBridge.Uuid
