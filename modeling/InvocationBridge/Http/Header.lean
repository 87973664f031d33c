import InvocationBridge.Bytes
import InvocationBridge.Fields
import InvocationBridge.Http.Method

/-!
HTTP headers: any number of values under each name, in the order they were added.

Names are kept in lower case, so that case does not matter when they are looked up.
-/

namespace InvocationBridge.Http

/-- The length of the longest header names. -/
def maxNameLength : Nat := 65535

/-- Whether a text is a header name in lower case. -/
def isHeaderName (name : String) : Bool :=
  isToken name.toList && decide (name.toList.length ≤ maxNameLength) &&
    name.toList.all fun c => c.toLower == c

structure HeaderName where
  text : String
  isHeaderName_text : isHeaderName text
  deriving DecidableEq

namespace HeaderName

/-- The name that a text gives, in either case. -/
def parse? (text : String) : Option HeaderName :=
  let lowered := String.ofList (text.toList.map Char.toLower)
  if h : isHeaderName lowered then some ⟨lowered, h⟩ else none

def contentType : HeaderName := ⟨"content-type", by decide⟩

end HeaderName

/-- The octets of header values: no controls but the tab. -/
def isValueOctet (b : UInt8) : Bool := (decide (0x20 ≤ b) && b != 0x7F) || b == 0x09

/-- Octets that can be shown: visible ASCII, spaces and tabs. -/
def isPlainOctet (b : UInt8) : Bool := (decide (0x20 ≤ b) && decide (b < 0x7F)) || b == 0x09

structure HeaderValue where
  octets : Bytes
  isValue_octets : octets.all isValueOctet
  deriving DecidableEq

namespace HeaderValue

def parse? (octets : Bytes) : Option HeaderValue :=
  if h : octets.all isValueOctet then some ⟨octets, h⟩ else none

def ofText? (text : String) : Option HeaderValue := parse? (Bytes.ofText text)

/-- The text of a value that can be shown. -/
def text? (v : HeaderValue) : Option String :=
  if v.octets.all isPlainOctet then
    some (String.ofList (v.octets.map fun b => Char.ofNat b.toNat))
  else none

/-- What is wrong with octets that make no value. -/
def invalidMessage : String := "failed to parse header value"

def json : HeaderValue := ⟨Bytes.ofText "application/json", by decide⟩

end HeaderValue

structure Headers where
  fields : Fields (List HeaderValue)
  names_valid : ∀ field ∈ fields, isHeaderName field.1
  sorted : fields.Sorted

namespace Headers

/-- No headers at all. -/
def empty : Headers := ⟨[], nofun, .nil⟩

def values (headers : Headers) (name : HeaderName) : List HeaderValue :=
  (headers.fields.get? name.text).getD []

/-- Replace the values under a name. -/
def put (headers : Headers) (name : HeaderName) (values : List HeaderValue) : Headers where
  fields := headers.fields.insert name.text values
  names_valid := fun field hField => by
    rcases Fields.mem_insert hField with rfl | hOld
    · exact name.isHeaderName_text
    · exact headers.names_valid field hOld
  sorted := Fields.sorted_insert name.text values headers.sorted

/-- Replace all values under a name by one. -/
def set (headers : Headers) (name : HeaderName) (value : HeaderValue) : Headers :=
  headers.put name [value]

/-- Add a value after those already under a name. -/
def add (headers : Headers) (name : HeaderName) (value : HeaderValue) : Headers :=
  headers.put name (headers.values name ++ [value])

theorem values_put_self (headers : Headers) (name : HeaderName) (values : List HeaderValue) :
    (headers.put name values).values name = values := by
  rw [Headers.values, put, Fields.get?_insert_self, Option.getD_some]

theorem values_put_of_ne {name other : HeaderName} (h : other ≠ name) (headers : Headers)
    (values : List HeaderValue) : (headers.put name values).values other = headers.values other := by
  have hText : other.text ≠ name.text := by
    intro hText
    cases other
    cases name
    exact h (by simpa using hText)
  rw [Headers.values, put, Fields.get?_insert_of_ne hText, Headers.values]

/-- The first value under a name given as text, if it can be shown. -/
def text? (headers : Headers) (name : String) : Option String := do
  let name ← HeaderName.parse? name
  let value ← (headers.values name).head?
  value.text?

end Headers

end InvocationBridge.Http
