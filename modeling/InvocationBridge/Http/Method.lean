/-!
HTTP tokens and request methods.
-/

namespace InvocationBridge.Http

/-- The characters of a token, which methods and header names are made of. -/
def isTokenChar (c : Char) : Bool :=
  c.isAlphanum || "!#$%&'*+-.^_`|~".toList.contains c

def isToken (cs : List Char) : Bool := !cs.isEmpty && cs.all isTokenChar

/-- A request method: any token, in which upper and lower case differ. -/
structure Method where
  name : String
  isToken_name : isToken name.toList
  deriving DecidableEq

namespace Method

def parse? (name : String) : Option Method :=
  if h : isToken name.toList then some ⟨name, h⟩ else none

def get : Method := ⟨"GET", by decide⟩

def post : Method := ⟨"POST", by decide⟩

end Method

end InvocationBridge.Http
