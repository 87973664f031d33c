import InvocationBridge.Json.Error

/-!
The context of an invocation, and its JSON form.
-/

namespace InvocationBridge

/-- What the platform tells about an invocation. The deadline is in milliseconds. -/
structure InvocationContext where
  requestId : String := ""
  invokedFunctionArn : String := ""
  deadline : UInt64 := 0
  xrayTraceId : Option String := none
  deriving DecidableEq

namespace InvocationContext

/-- The fields in their written order; the trace is left out if there is none. -/
def fields (c : InvocationContext) : List (String × Json) :=
  [("requestId", .str c.requestId), ("invokedFunctionArn", .str c.invokedFunctionArn),
    ("deadline", .ofNat c.deadline.toNat)] ++
  match c.xrayTraceId with
  | some trace => [("xrayTraceId", .str trace)]
  | none => []

/-- The context as a value, with the fields in order of their names. -/
def toJson (c : InvocationContext) : Json := .obj (Fields.ofList c.fields)

/-- What a value is called where it does not belong. -/
def found : Json → Json.Found
  | .null => .null
  | .bool b => .bool b
  | .num n => .number n
  | .str s => .string s
  | .arr _ => .sequence
  | .obj _ => .map

def textOf : Json → Except Json.Error String
  | .str s => .ok s
  | v => .error (.plain (.invalidType (found v) "a string"))

def optionalTextOf : Json → Except Json.Error (Option String)
  | .null => .ok none
  | v => (textOf v).map some

def wordOf : Json → Except Json.Error UInt64
  | .num (.int n) =>
    if 0 ≤ n then .ok n.toNat.toUInt64
    else .error (.plain (.invalidValue (.number (.int n)) "u64"))
  | v => .error (.plain (.invalidType (found v) "u64"))

/-- What was read so far of a context in an object. -/
structure Draft where
  requestId : Option String := none
  invokedFunctionArn : Option String := none
  deadline : Option UInt64 := none
  xrayTraceId : Option String := none

/-- Take in one field of an object; those of other names are ignored. -/
def Draft.add (draft : Draft) (name : String) (v : Json) : Except Json.Error Draft :=
  if name = "requestId" then
    (textOf v).map fun s => { draft with requestId := some s }
  else if name = "invokedFunctionArn" then
    (textOf v).map fun s => { draft with invokedFunctionArn := some s }
  else if name = "deadline" then
    (wordOf v).map fun n => { draft with deadline := some n }
  else if name = "xrayTraceId" then
    (optionalTextOf v).map fun s => { draft with xrayTraceId := s }
  else .ok draft

def required {α : Type} (name : String) : Option α → Except Json.Error α
  | some a => .ok a
  | none => .error (.plain (.missingField name))

/-- The context that an object holds. -/
def ofFields (fields : List (String × Json)) : Except Json.Error InvocationContext := do
  let draft ← fields.foldlM (fun draft (name, v) => draft.add name v) ({} : Draft)
  let requestId ← required "requestId" draft.requestId
  let invokedFunctionArn ← required "invokedFunctionArn" draft.invokedFunctionArn
  let deadline ← required "deadline" draft.deadline
  return ⟨requestId, invokedFunctionArn, deadline, draft.xrayTraceId⟩

/-- The item of an array at a position that must not be missing. -/
def itemAt (items : List Json) (position : Nat) : Except Json.Error Json :=
  match items[position]? with
  | some v => .ok v
  | none =>
    .error (.plain (.invalidLength position "struct InvocationContext with 4 elements"))

/-- The context that an array holds, field after field. -/
def ofItems (items : List Json) : Except Json.Error InvocationContext := do
  let requestId ← textOf (← itemAt items 0)
  let invokedFunctionArn ← textOf (← itemAt items 1)
  let deadline ← wordOf (← itemAt items 2)
  let xrayTraceId ← optionalTextOf (items.getD 3 .null)
  if 4 < items.length then
    .error (.plain (.invalidLength items.length "fewer elements in array"))
  else return ⟨requestId, invokedFunctionArn, deadline, xrayTraceId⟩

/-- The context in a value: an object by names, or an array by positions. -/
def ofJson : Json → Except Json.Error InvocationContext
  | .obj fields => ofFields fields
  | .arr items => ofItems items
  | v => .error (.plain (.invalidType (found v) "struct InvocationContext"))

end InvocationContext

end InvocationBridge
