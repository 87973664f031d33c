import InvocationBridge.Json.Reader.Skip
import InvocationBridge.Json.Reader.Typed
import InvocationBridge.Json.Reader.Value

/-!
Pets and their JSON form.

A pet is written as an object with its fields in a fixed order. It is read from an object in any
order, or from an array of the fields by position.
-/

namespace InvocationBridge

structure Pet where
  id : String
  breed : String
  name : String
  dateOfBirth : Option String := none
  deriving DecidableEq

namespace Pet

/-- The fields in their written order; the date is left out if there is none. -/
def fields (p : Pet) : List (String × Json) :=
  [("id", .str p.id), ("breed", .str p.breed), ("name", .str p.name)] ++
  match p.dateOfBirth with
  | some date => [("dateOfBirth", .str date)]
  | none => []

def toJson (p : Pet) : Json := .obj p.fields

open Json Json.Reader

/-- What was read so far of a pet in an object. An absent date differs from one that is null. -/
structure Draft where
  id : Option String := none
  breed : Option String := none
  name : Option String := none
  dateOfBirth : Option (Option String) := none

/-- What is left after a name that came a second time: spaces are passed over, and so is the end of
the object if it is next. -/
def afterRepeated (bs : Bytes) : Bytes :=
  match skipSpace bs with
  | 0x7D :: rest => rest
  | rest => rest

/-- The value of a field that was not there before. -/
def fresh {α : Type} (name : String) (seen : Option α)
    (reader : Bytes → Except Fault (α × Bytes)) (bs : Bytes) : Except Fault (α × Bytes) :=
  match seen with
  | some _ => .error (.before (afterRepeated bs) (.duplicateField name))
  | none => do
    let rest ← colon bs
    reader rest

/-- Take in one member of an object from its name on; values under unknown names are skipped. -/
def Draft.member (draft : Draft) (name : String) (bs : Bytes) : Except Fault (Draft × Bytes) :=
  if name = "id" then
    (fresh name draft.id text bs).map fun (s, rest) => ({ draft with id := some s }, rest)
  else if name = "breed" then
    (fresh name draft.breed text bs).map fun (s, rest) => ({ draft with breed := some s }, rest)
  else if name = "name" then
    (fresh name draft.name text bs).map fun (s, rest) => ({ draft with name := some s }, rest)
  else if name = "dateOfBirth" then
    (fresh name draft.dateOfBirth optionalText bs).map fun (s, rest) =>
      ({ draft with dateOfBirth := some s }, rest)
  else do
    let rest ← colon bs
    let rest ← skip rest
    return (draft, rest)

/-- The pet of an object that was read to its end. -/
def Draft.finish (draft : Draft) (rest : Bytes) : Except Fault (Pet × Bytes) :=
  match draft.breed, draft.name with
  | some breed, some name =>
    .ok (⟨draft.id.getD "", breed, name, draft.dateOfBirth.getD none⟩, rest)
  | none, _ => .error (.before rest (.missingField "breed"))
  | some _, none => .error (.before rest (.missingField "name"))

/-- A pet in an object, after the opening brace. -/
def ofMembers (bs : Bytes) : Except Fault (Pet × Bytes) := do
  let (draft, rest) ← members Draft.member {} bs
  draft.finish rest

/-- The item of an array at a position, or nothing if the array ends there. The closing bracket is
left where it is. -/
def item? {α : Type} (position : Nat) (reader : Bytes → Except Fault (α × Bytes)) (bs : Bytes) :
    Except Fault (Option α × Bytes) :=
  match skipSpace bs with
  | [] => .error (.upon [] .eofList)
  | b :: rest =>
    if b = 0x5D then .ok (none, b :: rest)
    else if position = 0 then (reader (b :: rest)).map fun (a, rest) => (some a, rest)
    else if b = 0x2C then
      match skipSpace rest with
      | [] => .error (.upon [] .eofValue)
      | c :: after =>
        if c = 0x5D then .error (.upon (c :: after) .trailingComma)
        else (reader (c :: after)).map fun (a, rest) => (some a, rest)
    else .error (.upon (b :: rest) .expectedListEnd)

/-- The item of an array at a position, where the array must not end. -/
def itemAt {α : Type} (position : Nat) (reader : Bytes → Except Fault (α × Bytes)) (bs : Bytes) :
    Except Fault (α × Bytes) := do
  match ← item? position reader bs with
  | (some a, rest) => return (a, rest)
  | (none, rest) =>
    throw (.before (rest.drop 1) (.invalidLength position "struct Pet with 4 elements"))

/-- The end of an array whose items were all read. -/
def closeItems (bs : Bytes) : Except Fault Bytes :=
  match skipSpace bs with
  | [] => .error (.upon [] .eofList)
  | b :: rest =>
    if b = 0x5D then .ok rest
    else if b = 0x2C then
      match skipSpace rest with
      | [] => .error (.upon [] .trailingCharacters)
      | c :: after =>
        .error (.upon (c :: after) (if c = 0x5D then .trailingComma else .trailingCharacters))
    else .error (.upon (b :: rest) .trailingCharacters)

/-- A pet in an array, after the opening bracket. -/
def ofItems (bs : Bytes) : Except Fault (Pet × Bytes) := do
  let (id, rest) ← item? 0 text bs
  let (breed, rest) ← itemAt 1 text rest
  let (name, rest) ← itemAt 2 text rest
  let (date, rest) ← item? 3 optionalText rest
  let rest ← closeItems rest
  return (⟨id.getD "", breed, name, date.getD none⟩, rest)

def read (bs : Bytes) : Except Fault (Pet × Bytes) :=
  match skipSpace bs with
  | [] => .error (.upon [] .eofValue)
  | b :: rest =>
    if b = 0x7B then ofMembers rest
    else if b = 0x5B then ofItems rest
    else .error (mismatch "struct Pet" (b :: rest))

/-- The pet that a text spells. -/
def parse (text : Bytes) : Except Error Pet := whole read text

end Pet

end InvocationBridge
