import InvocationBridge.PetStore.Pet
import InvocationBridge.Proofs.Json.Value

/-!
The text of a pet reads back as the pet.

An identifier may be left out of the text, which reads as if it were empty.
-/

namespace InvocationBridge.Pet

open Json Json.Reader

theorem text_append (s : String) (rest : Bytes) :
    text (Utf8.encode (chars (.str s)) ++ rest) = .ok (s, rest) := by
  rw [chars, stringChars, encode_enclosed (by decide) (by decide), Reader.text,
    skipSpace_cons (by decide)]
  exact string_escaped_append s rest

theorem optionalText_append (s : String) (rest : Bytes) :
    optionalText (Utf8.encode (chars (.str s)) ++ rest) = .ok (some s, rest) := by
  have hText := text_append s rest
  rw [chars, stringChars, encode_enclosed (by decide) (by decide)] at hText ⊢
  rw [optionalText, skipSpace_cons (by decide)]
  exact congrArg (Except.map _) hText

/-- A field that was not there before is taken in with what its reader makes of it. -/
theorem takes_of_fresh {α : Type} {seen : Draft} {name : String} {s : String} {a : α}
    {reader : Bytes → Except Fault (α × Bytes)} (next : α → Draft)
    (hMember : ∀ bs, seen.member name bs =
      (fresh name none reader bs).map fun (a, rest) => (next a, rest))
    (hReads : ∀ rest, reader (Utf8.encode (chars (.str s)) ++ rest) = .ok (a, rest)) :
    Takes Draft.member seen name (.str s) (next a) := by
  intro rest _
  rw [hMember, fresh, colon, skipSpace_cons (by decide)]
  simp [bind, Except.bind, hReads, Except.map]

/-- The draft of a pet whose fields were all read, but perhaps without an identifier. -/
def draft (id : Option String) (p : Pet) : Draft where
  id := id
  breed := some p.breed
  name := some p.name
  dateOfBirth := p.dateOfBirth.map some

/-- The fields of a pet but for its identifier. -/
def unnamed (p : Pet) : List (String × Json) := p.fields.filter fun field => field.1 ≠ "id"

theorem fields_eq (p : Pet) : p.fields = ("id", .str p.id) :: p.unnamed := by
  obtain ⟨id, breed, name, date⟩ := p
  cases date <;> simp [fields, unnamed]

/-- Reading the fields one after the other fills in a draft. A pet of no kind has no field for it,
and its draft has none either. -/
theorem takesAll_unnamed (id : Option String) (p : Pet) :
    TakesAll Draft.member { id } p.unnamed (p.draft id) := by
  obtain ⟨text, breed, name, date⟩ := p
  have hBreed : Takes Draft.member { id } "breed" (.str breed) { id, breed := some breed } :=
    takes_of_fresh (fun s => { id, breed := some s }) (fun _ => rfl) (text_append breed)
  have hName : Takes Draft.member { id, breed := some breed } "name" (.str name)
      { id, breed := some breed, name := some name } :=
    takes_of_fresh (fun s => { id, breed := some breed, name := some s }) (fun _ => rfl)
      (text_append name)
  cases date with
  | none => exact .cons hBreed (.cons hName (.nil _))
  | some date =>
      have hDate : Takes Draft.member { id, breed := some breed, name := some name } "dateOfBirth"
          (.str date)
          { id, breed := some breed, name := some name, dateOfBirth := some (some date) } :=
        takes_of_fresh
          (fun s => { id, breed := some breed, name := some name, dateOfBirth := some s })
          (fun _ => rfl) (optionalText_append date)
      exact .cons hBreed (.cons hName (.cons hDate (.nil _)))

/-- With the identifier in front, the draft has it as well. -/
theorem takesAll_fields (p : Pet) : TakesAll Draft.member {} p.fields (p.draft (some p.id)) := by
  have hId : Takes Draft.member {} "id" (.str p.id) { id := some p.id } :=
    takes_of_fresh (fun s => { id := some s }) (fun _ => rfl) (text_append p.id)
  rw [fields_eq]
  exact .cons hId (takesAll_unnamed (some p.id) p)

/-- An object whose members are all taken parses to the draft that they leave, once
that is finished. -/
theorem parse_bytes_of_takesAll {fields : List (String × Json)} {seen : Draft} {p : Pet}
    (h : TakesAll Draft.member {} fields seen)
    (hFinish : ∀ rest, seen.finish rest = .ok (p, rest)) :
    parse (Json.obj fields).bytes = .ok p := by
  have hText : (Json.obj fields).bytes = 0x7B :: (Utf8.encode (fieldChars fields) ++ [0x7D]) := by
    rw [bytes, chars, ← List.append_nil (Utf8.encode _), encode_enclosed (by decide) (by decide)]
    rfl
  have hRead : read (Json.obj fields).bytes = .ok (p, []) := by
    rw [hText, read, skipSpace_cons (by decide)]
    simp [ofMembers, members_append h, bind, Except.bind, hFinish]
  rw [parse, whole, hRead]
  rfl

/-- A pet is read back from its text. -/
theorem parse_bytes_toJson (p : Pet) : parse p.toJson.bytes = .ok p := by
  refine parse_bytes_of_takesAll (takesAll_fields p) fun rest => ?_
  obtain ⟨id, breed, name, date⟩ := p
  cases date <;> rfl

theorem parse_bytes_unnamed (p : Pet) :
    parse (Json.obj p.unnamed).bytes = .ok { p with id := "" } := by
  refine parse_bytes_of_takesAll (takesAll_unnamed none p) fun rest => ?_
  obtain ⟨id, breed, name, date⟩ := p
  cases date <;> rfl

end InvocationBridge.Pet
