import InvocationBridge.Json.Reader.Value
import InvocationBridge.Proofs.Json.Number
import InvocationBridge.Proofs.Json.Text

/-!
Compact text reads back as the value that it was made from.

This holds for values that the reader can give at all: integers of one word, fields in order, and
no deeper nesting than its limit. Floats are left out, but for the negative zero, which a text of an
integer can spell.
-/

namespace InvocationBridge.Json

/-- A value that a reader can give, nested at most `depth` deep, without any float but the negative
zero. -/
inductive Plain : Nat → Json → Prop where
  | null {depth : Nat} : Plain depth .null
  | bool {depth : Nat} (b : Bool) : Plain depth (.bool b)
  | int {depth : Nat} {n : Int} (hLower : -0x8000000000000000 ≤ n)
      (hUpper : n < 0x10000000000000000) : Plain depth (.num (.int n))
  | negativeZero {depth : Nat} : Plain depth (.num (.float (-0.0)))
  | str {depth : Nat} (s : String) : Plain depth (.str s)
  | arr {depth : Nat} {items : List Json} (hItems : ∀ v ∈ items, Plain depth v) :
      Plain (depth + 1) (.arr items)
  | obj {depth : Nat} {fields : Fields Json} (hSorted : fields.Sorted)
      (hFields : ∀ field ∈ fields, Plain depth field.2) : Plain (depth + 1) (.obj fields)

theorem Plain.insert {depth : Nat} {fields : Fields Json} {value : Json}
    (h : (Json.obj fields).Plain (depth + 1)) (name : String) (hValue : value.Plain depth) :
    (Json.obj (fields.insert name value)).Plain (depth + 1) := by
  cases h with
  | obj hSorted hFields =>
      refine .obj (Fields.sorted_insert name value hSorted) fun field hField => ?_
      rcases Fields.mem_insert hField with rfl | hOld
      · exact hValue
      · exact hFields field hOld

theorem Plain.insertAll {depth : Nat} {source target : Fields Json}
    (h : (Json.obj target).Plain (depth + 1)) (hSource : ∀ field ∈ source, field.2.Plain depth) :
    (Json.obj (source.insertAll target)).Plain (depth + 1) := by
  induction source generalizing target with
  | nil => exact h
  | cons first rest ih =>
      obtain ⟨hFirst, hRest⟩ := List.forall_mem_cons.mp hSource
      exact ih (h.insert first.1 hFirst) hRest

/-- An object of texts is plain at any depth. This is how headers are written. -/
theorem Plain.texts {α : Type} {source : Fields α} (h : source.Sorted) (text : α → String)
    (depth : Nat) : (Json.obj (source.mapValues fun v => .str (text v))).Plain (depth + 1) := by
  refine .obj (Fields.sorted_mapValues _ h) fun field hField => ?_
  obtain ⟨_, -, rfl⟩ := List.mem_map.mp hField
  exact .str _

/-- The text of further items or fields, each after a comma. -/
def continued {α : Type} (text : α → List Char) (xs : List α) : List Char :=
  xs.flatMap fun x => ',' :: text x

theorem itemChars_cons (v : Json) (items : List Json) :
    itemChars (v :: items) = chars v ++ continued chars items := by
  induction items generalizing v with
  | nil => simp [itemChars, continued]
  | cons w items ih => simp [itemChars, ih, continued]

/-- The text of one field. -/
def memberChars (field : String × Json) : List Char :=
  stringChars field.1 ++ ':' :: chars field.2

theorem fieldChars_cons (field : String × Json) (fields : Fields Json) :
    fieldChars (field :: fields) = memberChars field ++ continued memberChars fields := by
  induction fields generalizing field with
  | nil => simp [fieldChars, continued, memberChars]
  | cons next fields ih => simp [fieldChars, ih, continued, memberChars]

theorem encode_continued_cons {α : Type} (text : α → List Char) (x : α) (xs : List α) :
    Utf8.encode (continued text (x :: xs)) =
      0x2C :: (Utf8.encode (text x) ++ Utf8.encode (continued text xs)) := by
  rw [continued, List.flatMap_cons, List.cons_append, Utf8.encode_cons_of_lt (by decide),
    Utf8.encode_append]
  rfl

/-- Every item has its comma, so that the length of the text is enough fuel for the items. -/
theorem length_le_encode_continued {α : Type} (text : α → List Char) (xs : List α) :
    xs.length ≤ (Utf8.encode (continued text xs)).length := by
  induction xs with
  | nil => exact Nat.zero_le _
  | cons x xs ih =>
      rw [encode_continued_cons, List.length_cons, List.length_cons, List.length_append]
      omega

namespace Reader

/-- The reader gives `v` back from its text, whatever comes after it. -/
def Reads (reader : Bytes → Except Fault (Json × Bytes)) (v : Json) : Prop :=
  ∀ rest, EndsNumber rest → reader (Utf8.encode (chars v) ++ rest) = .ok (v, rest)

/-- The reader gives `w` from the text of `v`, whatever comes after it. -/
def ReadsAs (reader : Bytes → Except Fault (Json × Bytes)) (v w : Json) : Prop :=
  ∀ rest, EndsNumber rest → reader (Utf8.encode (chars v) ++ rest) = .ok (w, rest)

/-- The text of the value starts with neither a space nor a closing bracket. -/
def Opens (v : Json) : Prop :=
  ∃ b more, Utf8.encode (chars v) = b :: more ∧ isSpace b = false ∧ b ≠ 0x5D

theorem endsNumber_nil : EndsNumber [] := by simp [EndsNumber]

theorem endsNumber_cons {b : UInt8} (h : b = 0x2C ∨ b = 0x5D ∨ b = 0x7D) (rest : Bytes) :
    EndsNumber (b :: rest) := by
  rcases h with rfl | rfl | rfl <;> simp [EndsNumber, isDigit, startsExponent]

theorem skipSpace_cons {b : UInt8} (h : isSpace b = false) (rest : Bytes) :
    skipSpace (b :: rest) = b :: rest := by
  simp [skipSpace, h]

theorem isSpace_of_isDigit {b : UInt8} (h : isDigit b = true) : isSpace b = false ∧ b ≠ 0x5D := by
  simp only [isDigit, isSpace, UInt8.le_iff_toNat_le, ← UInt8.toNat_inj, Ne, UInt8.reduceToNat,
    Bool.and_eq_true, decide_eq_true_eq] at h ⊢
  simp [← UInt8.toNat_inj]
  omega

theorem opens_of_chars_eq {v : Json} (c : Char) (hc : c.toNat < 0x80) {cs : List Char}
    (hChars : chars v = c :: cs)
    (hStart : isSpace c.toNat.toUInt8 = false ∧ c.toNat.toUInt8 ≠ 0x5D) : Opens v :=
  ⟨_, _, hChars ▸ Utf8.encode_cons_of_lt hc cs, hStart⟩

theorem opens_obj (fields : List (String × Json)) : Opens (.obj fields) :=
  opens_of_chars_eq '\x7b' (by decide) (by rw [chars]; rfl) (by decide)

/-- Every plain value starts with a character of its own, so that readers of lists do not mistake
it for the end. -/
theorem opens_of_plain {depth : Nat} {v : Json} (h : v.Plain depth) : Opens v := by
  cases h with
  | null => exact opens_of_chars_eq 'n' (by decide) (by rw [chars]) (by decide)
  | bool b =>
      cases b with
      | false => exact opens_of_chars_eq 'f' (by decide) (by rw [chars]) (by decide)
      | true => exact opens_of_chars_eq 't' (by decide) (by rw [chars]) (by decide)
  | negativeZero =>
      have hChars := ofFloat_negativeZero
      exact opens_of_chars_eq '-' (by decide) (by rw [chars, Number.chars, hChars]) (by decide)
  | str s => exact opens_of_chars_eq '"' (by decide) (by rw [chars, stringChars]; rfl) (by decide)
  | arr => exact opens_of_chars_eq '[' (by decide) (by rw [chars]; rfl) (by decide)
  | obj => exact opens_obj _
  | @int _ n =>
      by_cases hNegative : n < 0
      · exact opens_of_chars_eq '-' (by decide) (by rw [chars, Number.chars, if_pos hNegative])
          (by decide)
      · obtain ⟨c, cs, hDigits, -⟩ := toDigits_head n.natAbs
        have hDigit : c.isDigit = true :=
          Nat.isDigit_of_mem_toDigits (by decide) (by decide) (hDigits ▸ List.mem_cons_self)
        obtain ⟨hc, hOctet, -⟩ := isDigit_toUInt8 hDigit
        exact opens_of_chars_eq c hc (by rw [chars, Number.chars, if_neg hNegative, hDigits])
          (isSpace_of_isDigit hOctet)

variable {reader : Bytes → Except Fault (Json × Bytes)}

/-- After an item comes a comma or a closing bracket; either ends a number. -/
theorem endsNumber_continued {α : Type} (text : α → List Char) (xs : List α) {b : UInt8}
    (h : b = 0x5D ∨ b = 0x7D) (rest : Bytes) :
    EndsNumber (Utf8.encode (continued text xs) ++ b :: rest) := by
  cases xs with
  | nil => exact endsNumber_cons (.inr h) rest
  | cons x xs =>
      rw [encode_continued_cons]
      exact endsNumber_cons (.inl rfl) _

/-- Items that read back one by one read back as a list. -/
theorem moreItems_append {α : Type} {written read : α → Json} {xs : List α}
    (hOpens : ∀ x ∈ xs, Opens (written x)) (hReads : ∀ x ∈ xs, ReadsAs reader (written x) (read x))
    {fuel : Nat} (hFuel : xs.length < fuel) (rest : Bytes) :
    moreItems reader fuel (Utf8.encode (continued chars (xs.map written)) ++ 0x5D :: rest) =
      .ok (xs.map read, rest) := by
  induction xs generalizing fuel with
  | nil =>
      obtain ⟨fuel, rfl⟩ := Nat.exists_eq_add_one_of_ne_zero (Nat.ne_of_gt hFuel)
      rfl
  | cons x xs ih =>
      obtain ⟨fuel, rfl⟩ :=
        Nat.exists_eq_add_one_of_ne_zero (Nat.ne_of_gt (Nat.zero_lt_of_lt hFuel))
      obtain ⟨⟨b, more, hHead, hSpace, hBracket⟩, hOpens⟩ := List.forall_mem_cons.mp hOpens
      obtain ⟨hRead, hReads⟩ := List.forall_mem_cons.mp hReads
      have hItem := hRead _ (endsNumber_continued chars (xs.map written) (.inl rfl) rest)
      have hRest := ih hOpens hReads (Nat.lt_of_succ_lt_succ hFuel)
      rw [hHead, List.cons_append] at hItem
      rw [List.map_cons, encode_continued_cons, hHead, List.cons_append, List.cons_append,
        List.cons_append, List.append_assoc, moreItems, skipSpace_cons (by decide)]
      simp [skipSpace_cons hSpace, hBracket, bind, Except.bind, hItem, hRest, pure, Except.pure]

/-- An array is read from the octets after its opening bracket, item by item. -/
theorem items_append {α : Type} {written read : α → Json} {xs : List α}
    (hOpens : ∀ x ∈ xs, Opens (written x)) (hReads : ∀ x ∈ xs, ReadsAs reader (written x) (read x))
    (rest : Bytes) :
    items reader (Utf8.encode (itemChars (xs.map written)) ++ 0x5D :: rest) =
      .ok (xs.map read, rest) := by
  cases xs with
  | nil => rfl
  | cons x xs =>
      obtain ⟨⟨b, more, hHead, hSpace, hBracket⟩, hOpens⟩ := List.forall_mem_cons.mp hOpens
      obtain ⟨hRead, hReads⟩ := List.forall_mem_cons.mp hReads
      have hItem := hRead _ (endsNumber_continued chars (xs.map written) (.inl rfl) rest)
      have hLength := length_le_encode_continued chars (xs.map written)
      have hRest := fun fuel (hFuel : xs.length < fuel) => moreItems_append hOpens hReads hFuel rest
      rw [hHead, List.cons_append] at hItem
      rw [List.map_cons, itemChars_cons, Utf8.encode_append, hHead, List.append_assoc,
        List.cons_append, items, skipSpace_cons hSpace]
      simp only [hBracket, if_false, bind, Except.bind, hItem]
      rw [List.length_map] at hLength
      rw [hRest _ (by simp only [List.length_append, List.length_cons]; omega)]
      rfl

section Members

variable {σ : Type} {member : σ → String → Bytes → Except Fault (σ × Bytes)}

/-- The reader of members takes in a field that comes right after its name, whatever comes after
it. -/
def Takes (member : σ → String → Bytes → Except Fault (σ × Bytes)) (seen : σ) (name : String)
    (v : Json) (next : σ) : Prop :=
  ∀ rest, EndsNumber rest →
    member seen name (0x3A :: (Utf8.encode (chars v) ++ rest)) = .ok (next, rest)

/-- The reader of members takes in some fields, one after the other. -/
inductive TakesAll (member : σ → String → Bytes → Except Fault (σ × Bytes)) :
    σ → List (String × Json) → σ → Prop where
  | nil (seen : σ) : TakesAll member seen [] seen
  | cons {seen next last : σ} {name : String} {v : Json} {fields : List (String × Json)}
      (hFirst : Takes member seen name v next) (hRest : TakesAll member next fields last) :
      TakesAll member seen ((name, v) :: fields) last

theorem encode_memberChars (name : String) (v : Json) :
    Utf8.encode (memberChars (name, v)) =
      0x22 :: (Utf8.encode (name.toList.flatMap escapedChar) ++
        0x22 :: 0x3A :: Utf8.encode (chars v)) := by
  rw [memberChars, stringChars, List.cons_append, List.cons_append, List.append_assoc,
    List.cons_append, List.nil_append, Utf8.encode_cons_of_lt (by decide), Utf8.encode_append,
    Utf8.encode_cons_of_lt (by decide), Utf8.encode_cons_of_lt (by decide)]
  rfl

/-- A name is read back from the octets after its opening quote. -/
theorem exists_string_append (name : String) (v : Json) (rest : Bytes) :
    ∃ after, Utf8.encode (memberChars (name, v)) ++ rest = 0x22 :: after ∧
      string after = .ok (name, 0x3A :: (Utf8.encode (chars v) ++ rest)) := by
  refine ⟨_, ?_, string_escaped_append name _⟩
  rw [encode_memberChars, List.cons_append, List.append_assoc, List.cons_append, List.cons_append]

/-- Members that the reader takes one by one are taken from an object as a whole. -/
theorem moreMembers_append {seen last : σ} {fields : List (String × Json)}
    (h : TakesAll member seen fields last) {fuel : Nat} (hFuel : fields.length < fuel)
    (rest : Bytes) :
    moreMembers member fuel seen (Utf8.encode (continued memberChars fields) ++ 0x7D :: rest) =
      .ok (last, rest) := by
  induction h generalizing fuel with
  | nil seen =>
      obtain ⟨fuel, rfl⟩ := Nat.exists_eq_add_one_of_ne_zero (Nat.ne_of_gt hFuel)
      rfl
  | @cons seen next last name v fields hFirst _ ih =>
      obtain ⟨fuel, rfl⟩ :=
        Nat.exists_eq_add_one_of_ne_zero (Nat.ne_of_gt (Nat.zero_lt_of_lt hFuel))
      have hTaken := hFirst _ (endsNumber_continued memberChars fields (.inr rfl) rest)
      have hRest := ih (Nat.lt_of_succ_lt_succ hFuel)
      obtain ⟨after, hText, hName⟩ := exists_string_append name v
        (Utf8.encode (continued memberChars fields) ++ 0x7D :: rest)
      rw [encode_continued_cons, List.cons_append, List.append_assoc, hText, moreMembers,
        skipSpace_cons (by decide)]
      simp [skipSpace_cons, isSpace, bind, Except.bind, hName, hTaken, hRest]

/-- An object is read from the octets after its opening brace, field by field. -/
theorem members_append {start last : σ} {fields : List (String × Json)}
    (h : TakesAll member start fields last) (rest : Bytes) :
    members member start (Utf8.encode (fieldChars fields) ++ 0x7D :: rest) = .ok (last, rest) := by
  cases h with
  | nil => rfl
  | @cons _ next _ name v fields hFirst hRest =>
      have hTaken := hFirst _ (endsNumber_continued memberChars fields (.inr rfl) rest)
      have hLength := length_le_encode_continued memberChars fields
      have hMore := fun fuel (hFuel : fields.length < fuel) => moreMembers_append hRest hFuel rest
      obtain ⟨after, hText, hName⟩ := exists_string_append name v
        (Utf8.encode (continued memberChars fields) ++ 0x7D :: rest)
      rw [fieldChars_cons, Utf8.encode_append, List.append_assoc, hText, members,
        skipSpace_cons (by decide)]
      simp only [if_neg (show ¬(0x22 : UInt8) = 0x7D by decide), if_true, bind, Except.bind, hName,
        hTaken]
      rw [hMore _ (by simp only [List.length_append, List.length_cons]; omega)]

end Members

/-- Fields that are kept are inserted one after the other. -/
theorem takesAll_field {fields : List (String × Json)}
    (hReads : ∀ field ∈ fields, Reads reader field.2) (seen : Fields Json) :
    TakesAll (field reader) seen fields (Fields.insertAll fields seen) := by
  induction fields generalizing seen with
  | nil => exact .nil seen
  | cons first fields ih =>
      obtain ⟨hRead, hReads⟩ := List.forall_mem_cons.mp hReads
      refine .cons (fun rest hEnds => ?_) (ih hReads (seen.insert first.1 first.2))
      rw [field, colon, skipSpace_cons (by decide)]
      simp [bind, Except.bind, hRead rest hEnds, pure, Except.pure]

theorem value_of_isDigit {b : UInt8} (h : isDigit b = true) (depth : Nat) (rest : Bytes) :
    value depth (b :: rest) =
      (number false (b :: rest)).map fun (n, rest) => (.num n, rest) := by
  have hLetter (c : UInt8) (hc : isDigit c = false) : b ≠ c := by
    rintro rfl
    exact absurd h (by simp [hc])
  rw [value.eq_def, skipSpace_cons (isSpace_of_isDigit h).1]
  simp [h, hLetter 0x6E rfl, hLetter 0x74 rfl, hLetter 0x66 rfl, hLetter 0x2D rfl]

/-- Integers of one word read back, with the sign or without. -/
theorem value_integer {depth : Nat} {n : Int} (hLower : -0x8000000000000000 ≤ n)
    (hUpper : n < 0x10000000000000000) :
    Reads (value depth) (.num (.int n)) := by
  intro rest hEnds
  have hNumber := integer_chars_append hLower hUpper hEnds
  rw [chars, Number.chars]
  split at hNumber
  · next hNegative =>
      rw [if_pos hNegative, Utf8.encode_cons_of_lt (by decide), List.cons_append, value.eq_def,
        skipSpace_cons (by decide)]
      simp [hNumber, Except.map]
  · next hNegative =>
      obtain ⟨c, cs, hDigits, -⟩ := toDigits_head n.natAbs
      have hDigit : c.isDigit = true :=
        Nat.isDigit_of_mem_toDigits (by decide) (by decide) (hDigits ▸ List.mem_cons_self)
      obtain ⟨hc, hOctet, -⟩ := isDigit_toUInt8 hDigit
      rw [hDigits, Utf8.encode_cons_of_lt hc, List.cons_append] at hNumber
      rw [if_neg hNegative, hDigits, Utf8.encode_cons_of_lt hc, List.cons_append,
        value_of_isDigit hOctet, hNumber]
      rfl

/-- The negative zero reads back as the float that it is, not as the integer zero. -/
theorem value_negativeZero (depth : Nat) : Reads (value depth) (.num (.float (-0.0))) := by
  intro rest hEnds
  have hText : Utf8.encode (chars (.num (.float (-0.0)))) = [0x2D, 0x30, 0x2E, 0x30] := by
    rw [chars, Number.chars, ofFloat_negativeZero]
    decide
  rw [hText, List.cons_append, value.eq_def, skipSpace_cons (by decide)]
  simp [negativeZero_append hEnds, Except.map]

theorem encode_enclosed {opening closing : Char} (hOpening : opening.toNat < 0x80)
    (hClosing : closing.toNat < 0x80) (cs : List Char) (rest : Bytes) :
    Utf8.encode (opening :: cs ++ [closing]) ++ rest =
      opening.toNat.toUInt8 :: (Utf8.encode cs ++ closing.toNat.toUInt8 :: rest) := by
  rw [List.cons_append, Utf8.encode_cons_of_lt hOpening, Utf8.encode_append,
    Utf8.encode_cons_of_lt hClosing, List.cons_append, List.append_assoc]
  rfl

theorem value_string (depth : Nat) (s : String) : Reads (value depth) (.str s) := by
  intro rest _
  rw [chars, stringChars, encode_enclosed (by decide) (by decide), value.eq_def,
    skipSpace_cons (by decide)]
  simp [isDigit, string_escaped_append, Except.map]

/-- An object is read from the text of fields in any order, in which names may be repeated. -/
theorem value_fields {depth : Nat} {fields : List (String × Json)}
    (hReads : ∀ field ∈ fields, Reads (value depth) field.2) (rest : Bytes) :
    value (depth + 1) (Utf8.encode (chars (.obj fields)) ++ rest) =
      .ok (.obj (Fields.ofList fields), rest) := by
  have hRead : members (field (value depth)) [] _ = .ok (Fields.ofList fields, rest) :=
    members_append (takesAll_field hReads []) rest
  rw [chars, encode_enclosed (by decide) (by decide), value.eq_def, skipSpace_cons (by decide)]
  simp [isDigit, hRead, Except.map]

/-- An array is read from the text of its items, whatever it is that they are read as. -/
theorem value_items {α : Type} {depth : Nat} {written read : α → Json} {xs : List α}
    (hOpens : ∀ x ∈ xs, Opens (written x))
    (hReads : ∀ x ∈ xs, ReadsAs (value depth) (written x) (read x)) (rest : Bytes) :
    value (depth + 1) (Utf8.encode (chars (.arr (xs.map written))) ++ rest) =
      .ok (.arr (xs.map read), rest) := by
  have hRead := items_append hOpens hReads rest
  rw [chars, encode_enclosed (by decide) (by decide), value.eq_def, skipSpace_cons (by decide)]
  simp [isDigit, hRead, Except.map]

/-- A value is read back from its text. -/
theorem value_append {depth : Nat} {v : Json} (h : v.Plain depth) : Reads (value depth) v := by
  induction h with
  | null =>
      intro rest _
      rw [chars, value.eq_def]
      rfl
  | bool b =>
      intro rest _
      cases b <;> rw [chars, value.eq_def] <;> rfl
  | int hLower hUpper => exact value_integer hLower hUpper
  | negativeZero => exact value_negativeZero _
  | str s => exact value_string _ s
  | @arr depth vs hItems ih =>
      intro rest _
      have hOpens : ∀ v ∈ vs, Opens (id v) := fun v hv => opens_of_plain (hItems v hv)
      have hReads : ∀ v ∈ vs, ReadsAs (value depth) (id v) (id v) := ih
      simpa only [List.map_id] using value_items hOpens hReads rest
  | @obj depth fields hSorted hFields ih =>
      intro rest _
      rw [value_fields ih, Fields.ofList_of_sorted hSorted]

end Reader

theorem parse_of_value {text : Bytes} {v : Json}
    (h : Reader.value Reader.depthLimit text = .ok (v, [])) : parse text = .ok v := by
  rw [parse, Reader.whole, h]
  rfl

/-- What is written for a value spells that value. -/
theorem parse_bytes {v : Json} (h : v.Plain Reader.depthLimit) : parse v.bytes = .ok v := by
  have hRead := Reader.value_append h [] Reader.endsNumber_nil
  rw [List.append_nil] at hRead
  exact parse_of_value hRead

/-- What is written for fields in any order spells the object that they make when they are set one
after the other. -/
theorem parse_bytes_obj {fields : List (String × Json)} (h : ∀ field ∈ fields, field.2.Plain 126) :
    parse (Json.obj fields).bytes = .ok (.obj (Fields.ofList fields)) := by
  have hRead := Reader.value_fields (fun field hField => Reader.value_append (h field hField)) []
  rw [List.append_nil] at hRead
  exact parse_of_value hRead

/-- Records in an array are read as the objects that they make. -/
theorem parse_bytes_arr {records : List (List (String × Json))}
    (h : ∀ fields ∈ records, ∀ field ∈ fields, field.2.Plain 125) :
    parse (Json.arr (records.map .obj)).bytes =
      .ok (.arr (records.map fun fields => .obj (Fields.ofList fields))) := by
  have hReads : ∀ fields ∈ records, Reader.ReadsAs (Reader.value 126) (.obj fields)
      (.obj (Fields.ofList fields)) := by
    intro fields hFields rest _
    exact Reader.value_fields (fun field hField => Reader.value_append (h fields hFields field hField))
      rest
  have hRead := Reader.value_items (fun fields _ => Reader.opens_obj fields) hReads []
  rw [List.append_nil] at hRead
  exact parse_of_value hRead

end InvocationBridge.Json
