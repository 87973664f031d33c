import InvocationBridge.Bytes
import InvocationBridge.Json.Printer
import InvocationBridge.Text.Numeral
import InvocationBridge.Text.Quoted

/-!
What can be wrong with JSON text or with a JSON value, and where.

`Error.message` puts an error into words, and `Error.ofText` takes the place of an error from words
that end with one.
-/

namespace InvocationBridge.Json

/-- A value that was found where another kind was due. -/
inductive Found where
  | null
  | bool (b : Bool)
  | number (n : Number)
  | string (s : String)
  | sequence
  | map

def Found.text : Found → String
  | null => "null"
  | bool true => "boolean `true`"
  | bool false => "boolean `false`"
  | number (.int n) => s!"integer `{String.ofList (Number.chars (.int n))}`"
  | number (.float x) => s!"floating point `{String.ofList (Number.chars (.float x))}`"
  | string s => s!"string {Text.quoted s}"
  | sequence => "sequence"
  | map => "map"

inductive Cause where
  | eofValue
  | eofString
  | eofList
  | eofObject
  | expectedValue
  | expectedIdent
  | expectedColon
  | expectedListEnd
  | expectedObjectEnd
  | keyNotString
  | trailingComma
  | trailingCharacters
  | invalidNumber
  | numberOutOfRange
  | invalidEscape
  | invalidCodePoint
  | controlCharacter
  | loneSurrogate
  | unexpectedEscapeEnd
  | recursionLimit
  | invalidType (found : Found) (expected : String)
  | invalidValue (found : Found) (expected : String)
  | invalidLength (length : Nat) (expected : String)
  | missingField (name : String)
  | duplicateField (name : String)
  | other (text : String)

def Cause.text : Cause → String
  | eofValue => "EOF while parsing a value"
  | eofString => "EOF while parsing a string"
  | eofList => "EOF while parsing a list"
  | eofObject => "EOF while parsing an object"
  | expectedValue => "expected value"
  | expectedIdent => "expected ident"
  | expectedColon => "expected `:`"
  | expectedListEnd => "expected `,` or `]`"
  | expectedObjectEnd => "expected `,` or `\x7d`"
  | keyNotString => "key must be a string"
  | trailingComma => "trailing comma"
  | trailingCharacters => "trailing characters"
  | invalidNumber => "invalid number"
  | numberOutOfRange => "number out of range"
  | invalidEscape => "invalid escape"
  | invalidCodePoint => "invalid unicode code point"
  | controlCharacter => "control character (\\u0000-\\u001F) found while parsing a string"
  | loneSurrogate => "lone leading surrogate in hex escape"
  | unexpectedEscapeEnd => "unexpected end of hex escape"
  | recursionLimit => "recursion limit exceeded"
  | invalidType found expected => s!"invalid type: {found.text}, expected {expected}"
  | invalidValue found expected => s!"invalid value: {found.text}, expected {expected}"
  | invalidLength length expected => s!"invalid length {length}, expected {expected}"
  | missingField name => s!"missing field `{name}`"
  | duplicateField name => s!"duplicate field `{name}`"
  | other text => text

/-- A place in a text: lines count from one, columns in octets. -/
structure Position where
  line : Nat
  column : Nat
  deriving DecidableEq

/-- The place after the given octets. -/
def Position.after (bs : Bytes) : Position where
  line := 1 + bs.count 0x0A
  column := (bs.reverse.takeWhile (· != 0x0A)).length

structure Error where
  cause : Cause
  position : Option Position

namespace Error

/-- An error that belongs to no place in a text. -/
def plain (cause : Cause) : Error := ⟨cause, none⟩

def message (e : Error) : String :=
  match e.position with
  | none => e.cause.text
  | some p => s!"{e.cause.text} at line {p.line} column {p.column}"

/-- A text cut before the ASCII digits at its end. -/
def cutDigits (cs : List Char) : List Char × List Char :=
  let digits := cs.reverse.takeWhile fun c => (Numeral.digit? c).isSome
  (cs.take (cs.length - digits.length), digits.reverse)

/-- The numbers of line and column at the end of a text, each of one word, and the text before
them. -/
def cutPlace? (cs : List Char) : Option (List Char × Position) := do
  let (front, column) := cutDigits cs
  let (front, line) := cutDigits (← " column ".toList.isSuffixOf? front)
  let text ← " at line ".toList.isSuffixOf? front
  let line ← Numeral.parse? UInt64.size line
  let column ← Numeral.parse? UInt64.size column
  return (text, ⟨line, column⟩)

/-- The error that a text tells of. A place at the end of the text becomes the place of the error;
lines count from one, so line zero is no place. -/
def ofText (text : String) : Error :=
  match cutPlace? text.toList with
  | some (cs, place) => ⟨.other (String.ofList cs), if place.line = 0 then none else some place⟩
  | none => plain (.other text)

end Error

end InvocationBridge.Json
