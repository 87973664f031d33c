import InvocationBridge.Bytes
import InvocationBridge.Json.Basic
import InvocationBridge.Json.Decimal
import InvocationBridge.Text.Hex

/-!
The compact text of a JSON value: no blanks, and in strings nothing escaped that need not be.
-/

namespace InvocationBridge

/-- The digits of an integer after its sign. -/
def Number.chars : Number → List Char
  | int n => if n < 0 then '-' :: Nat.toDigits 10 n.natAbs else Nat.toDigits 10 n.natAbs
  | float x => Decimal.ofFloat x

namespace Json

/-- One character inside a string: quotes, backslashes and controls are escaped, the latter by a
letter where there is one. -/
def escapedChar (c : Char) : List Char :=
  if c = '"' then ['\\', '"']
  else if c = '\\' then ['\\', '\\']
  else if c = '\n' then ['\\', 'n']
  else if c = '\r' then ['\\', 'r']
  else if c = '\t' then ['\\', 't']
  else if c = '\x08' then ['\\', 'b']
  else if c = '\x0c' then ['\\', 'f']
  else if c.toNat < 0x20 then
    ['\\', 'u', '0', '0', Hex.digit (c.toNat / 16), Hex.digit (c.toNat % 16)]
  else [c]

def stringChars (s : String) : List Char := '"' :: s.toList.flatMap escapedChar ++ ['"']

mutual

def chars : Json → List Char
  | null => ['n', 'u', 'l', 'l']
  | bool true => ['t', 'r', 'u', 'e']
  | bool false => ['f', 'a', 'l', 's', 'e']
  | num n => n.chars
  | str s => stringChars s
  | arr items => '[' :: itemChars items ++ [']']
  | obj fields => '\x7b' :: fieldChars fields ++ ['\x7d']

/-- The items with commas between them. -/
def itemChars : List Json → List Char
  | [] => []
  | [v] => chars v
  | v :: w :: rest => chars v ++ ',' :: itemChars (w :: rest)

/-- The fields with commas between them. -/
def fieldChars : List (String × Json) → List Char
  | [] => []
  | [(name, v)] => stringChars name ++ ':' :: chars v
  | (name, v) :: field :: rest =>
    stringChars name ++ ':' :: chars v ++ ',' :: fieldChars (field :: rest)

end

def text (v : Json) : String := String.ofList (chars v)

def bytes (v : Json) : Bytes := Utf8.encode (chars v)

/-- The text of a value, for a string the string itself. -/
def plainText : Json → String
  | str s => s
  | v => text v

end Json

end InvocationBridge
