import InvocationBridge.Text.Blank

/-!
Names of the types that a handler declares for its input and output.

Only the simple name counts: the last part of the path, without references and type arguments, and
for a wrapper the simple name of what it wraps.
-/

namespace InvocationBridge.TypeName

/-- Generic types that are looked through. -/
def wrappers : List (List Char) :=
  ["CanonicalMessage".toList, "Message".toList, "LambdaEvent".toList]

/-- The characters after the last `:` or `.`. -/
def lastPart (cs : List Char) : List Char :=
  (cs.reverse.takeWhile fun c => c != ':' && c != '.').reverse

/-- The name itself, without blanks around it and without the references before it. -/
def bare (cs : List Char) : List Char := (Text.trimmed cs).dropWhile (· == '&')

/-- The characters before the type arguments. -/
def base (cs : List Char) : List Char := cs.takeWhile (· != '<')

/-- The type arguments, if they reach up to a closing `>` at the end. -/
def arguments? (cs : List Char) : Option (List Char) :=
  match cs.dropWhile (· != '<') with
  | [] => none
  | _ :: inner => if inner.getLast? = some '>' then some inner.dropLast else none

theorem length_bare_le (cs : List Char) : (bare cs).length ≤ cs.length := by
  have hSuffix {p : Char → Bool} (l : List Char) : (l.dropWhile p).length ≤ l.length :=
    (List.dropWhile_sublist p).length_le
  calc (bare cs).length
      ≤ (Text.trimmed cs).length := hSuffix _
    _ ≤ (cs.dropWhile Text.isBlank).length := by
        simpa [Text.trimmed] using hSuffix (cs.dropWhile Text.isBlank).reverse
    _ ≤ cs.length := hSuffix _

theorem length_arguments?_lt {cs inner : List Char} (h : arguments? cs = some inner) :
    inner.length < cs.length := by
  have hDrop : (cs.dropWhile (· != '<')).length ≤ cs.length :=
    (List.dropWhile_sublist _).length_le
  unfold arguments? at h
  split at h
  · simp at h
  · rename_i hCons
    split at h
    · obtain rfl := Option.some.inj h
      simp only [hCons, List.length_cons, List.length_dropLast] at hDrop ⊢
      omega
    · simp at h

/-- The simple name. -/
def simpleChars (cs : List Char) : List Char :=
  let name := lastPart (base (bare cs))
  match _h : arguments? (bare cs) with
  | some inner => if wrappers.contains name then simpleChars inner else name
  | none => name
termination_by cs.length
decreasing_by
  have := length_arguments?_lt _h
  have := length_bare_le cs
  omega

def simple (name : String) : String := String.ofList (simpleChars name.toList)

end InvocationBridge.TypeName
