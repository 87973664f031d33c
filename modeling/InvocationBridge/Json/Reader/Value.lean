import InvocationBridge.Json.Reader.Number
import InvocationBridge.Json.Reader.Text

/-!
Reading arrays, objects and whole values.

`items` and `members` walk over an array and an object with any reader for what is inside; `value`
ties them together, down to a limit of nesting.
-/

namespace InvocationBridge.Json.Reader

/-- What follows the colon after a name. -/
def colon (bs : Bytes) : Except Fault Bytes :=
  match skipSpace bs with
  | [] => .error (.upon [] .eofObject)
  | b :: rest => if b = 0x3A then .ok rest else .error (.upon (b :: rest) .expectedColon)

/-- The items after the first one, up to the closing bracket. Each of them costs a comma, so `fuel`
lasts if there are no more octets than that. -/
def moreItems {α : Type} (item : Bytes → Except Fault (α × Bytes)) :
    (fuel : Nat) → Bytes → Except Fault (List α × Bytes)
  | 0, _ => .error (.upon [] .eofList)
  | fuel + 1, bs =>
    match skipSpace bs with
    | [] => .error (.upon [] .eofList)
    | b :: rest =>
      if b = 0x5D then .ok ([], rest)
      else if b = 0x2C then
        match skipSpace rest with
        | [] => .error (.upon [] .eofValue)
        | c :: after =>
          if c = 0x5D then .error (.upon (c :: after) .trailingComma)
          else do
            let (v, rest) ← item (c :: after)
            let (vs, rest) ← moreItems item fuel rest
            return (v :: vs, rest)
      else .error (.upon (b :: rest) .expectedListEnd)

/-- The items of an array after its opening bracket. -/
def items {α : Type} (item : Bytes → Except Fault (α × Bytes)) (bs : Bytes) :
    Except Fault (List α × Bytes) :=
  match skipSpace bs with
  | [] => .error (.upon [] .eofList)
  | b :: rest =>
    if b = 0x5D then .ok ([], rest)
    else do
      let (v, rest) ← item (b :: rest)
      let (vs, rest) ← moreItems item rest.length rest
      return (v :: vs, rest)

/-- The members of an object after the first one, up to the closing brace. `member` takes over after
the name of a member. Each of them costs a comma, so `fuel` lasts if there are no more octets. -/
def moreMembers {σ : Type} (member : σ → String → Bytes → Except Fault (σ × Bytes)) :
    (fuel : Nat) → σ → Bytes → Except Fault (σ × Bytes)
  | 0, _, _ => .error (.upon [] .eofObject)
  | fuel + 1, seen, bs =>
    match skipSpace bs with
    | [] => .error (.upon [] .eofObject)
    | b :: rest =>
      if b = 0x7D then .ok (seen, rest)
      else if b = 0x2C then
        match skipSpace rest with
        | [] => .error (.upon [] .eofValue)
        | c :: after =>
          if c = 0x22 then do
            let (name, rest) ← string after
            let (seen, rest) ← member seen name rest
            moreMembers member fuel seen rest
          else if c = 0x7D then .error (.upon (c :: after) .trailingComma)
          else .error (.upon (c :: after) .keyNotString)
      else .error (.upon (b :: rest) .expectedObjectEnd)

/-- The members of an object after its opening brace. -/
def members {σ : Type} (member : σ → String → Bytes → Except Fault (σ × Bytes)) (start : σ)
    (bs : Bytes) : Except Fault (σ × Bytes) :=
  match skipSpace bs with
  | [] => .error (.upon [] .eofObject)
  | b :: rest =>
    if b = 0x7D then .ok (start, rest)
    else if b = 0x22 then do
      let (name, rest) ← string rest
      let (seen, rest) ← member start name rest
      moreMembers member rest.length seen rest
    else .error (.upon (b :: rest) .keyNotString)

/-- A member of an object whose fields are kept, read with `value` after its name. -/
def field (value : Bytes → Except Fault (Json × Bytes)) (fields : Fields Json) (name : String)
    (bs : Bytes) : Except Fault (Fields Json × Bytes) := do
  let rest ← colon bs
  let (v, rest) ← value rest
  return (fields.insert name v, rest)

/-- A value in which arrays and objects are nested at most `depth` deep. -/
def value (depth : Nat) (bs : Bytes) : Except Fault (Json × Bytes) :=
  match skipSpace bs with
  | [] => .error (.upon [] .eofValue)
  | b :: rest =>
    if b = 0x6E then (word [0x75, 0x6C, 0x6C] rest).map (.null, ·)
    else if b = 0x74 then (word [0x72, 0x75, 0x65] rest).map (.bool true, ·)
    else if b = 0x66 then (word [0x61, 0x6C, 0x73, 0x65] rest).map (.bool false, ·)
    else if b = 0x2D then (number true rest).map fun (n, rest) => (.num n, rest)
    else if isDigit b then (number false (b :: rest)).map fun (n, rest) => (.num n, rest)
    else if b = 0x22 then (string rest).map fun (s, rest) => (.str s, rest)
    else if b = 0x5B then
      match depth with
      | 0 => .error (.upon (b :: rest) .recursionLimit)
      | depth + 1 => (items (value depth) rest).map fun (vs, rest) => (.arr vs, rest)
    else if b = 0x7B then
      match depth with
      | 0 => .error (.upon (b :: rest) .recursionLimit)
      | depth + 1 =>
        (members (field (value depth)) [] rest).map fun (fields, rest) => (.obj fields, rest)
    else .error (.upon (b :: rest) .expectedValue)

/-- How deep arrays and objects may be nested. -/
def depthLimit : Nat := 127

end Reader

/-- The value that a text spells. -/
def parse (text : Bytes) : Except Error Json := Reader.whole (Reader.value Reader.depthLimit) text

end InvocationBridge.Json
