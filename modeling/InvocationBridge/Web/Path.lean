import InvocationBridge.Fields
import InvocationBridge.Text.Split

/-!
Paths, and the patterns that routes match them with.

Only the segments between slashes count; empty ones are passed over.
-/

namespace InvocationBridge

/-- The values that the parameters of a pattern took. -/
abbrev PathParameters := Fields String

namespace Path

/-- The segments of a path that are not empty. -/
def segments (path : String) : List String :=
  ((Text.splitAt '/' path.toList).filter (· ≠ [])).map String.ofList

/-- A segment of a pattern. -/
inductive Segment where
  | literal (text : String)
  | parameter (name : String)
  deriving DecidableEq

abbrev Pattern := List Segment

def isNameStart (c : Char) : Bool := c.isAlpha || c == '_'

def isNameChar (c : Char) : Bool := c.isAlphanum || c == '_'

/-- Whether the characters are an identifier in ASCII. -/
def isName : List Char → Bool
  | [] => false
  | c :: cs => isNameStart c && cs.all isNameChar

/-- The identifier that the characters hold in braces. -/
def bracedName? (cs : List Char) : Option String :=
  match cs with
  | '\x7b' :: rest =>
    if rest.getLast? = some '\x7d' ∧ isName rest.dropLast then some (String.ofList rest.dropLast)
    else none
  | _ => none

/-- An identifier in braces is a parameter, and everything else stands for itself. -/
def Segment.parse (text : String) : Segment :=
  match bracedName? text.toList with
  | some name => parameter name
  | none => literal text

namespace Pattern

def parse (text : String) : Pattern := (segments text).map Segment.parse

/-- Match segments one by one, and set the parameters; of two with one name the later counts. -/
def matchSegments (parameters : PathParameters) : Pattern → List String → Option PathParameters
  | [], [] => some parameters
  | .literal expected :: pattern, actual :: rest =>
    if expected = actual then matchSegments parameters pattern rest else none
  | .parameter name :: pattern, actual :: rest =>
    matchSegments (parameters.insert name actual) pattern rest
  | _, _ => none

/-- The parameters of a path that matches from the first segment to the last. -/
def match? (pattern : Pattern) (path : String) : Option PathParameters :=
  matchSegments [] pattern (segments path)

end Pattern

end Path

end InvocationBridge
