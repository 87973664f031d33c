import InvocationBridge.Effect.Log

/-!
Application code: it logs, works on a state of its own, and may panic.
-/

namespace InvocationBridge

/-- Code that logs and works on a state `σ`, which stands for all that the application keeps or
draws from outside. -/
abbrev Effect (σ : Type) := StateT σ Logged

namespace Effect

variable {σ α β : Type}

/-- What code comes to in a state, and the state after it, without the lines it logs. -/
def result (m : Effect σ α) (s : σ) : α × σ := (m s).value

@[simp] theorem result_pure (a : α) (s : σ) : result (pure a) s = (a, s) := rfl

@[simp] theorem result_bind (m : Effect σ α) (f : α → Effect σ β) (s : σ) :
    result (m >>= f) s = result (f (result m s).1) (result m s).2 := rfl

@[simp] theorem result_map (f : α → β) (m : Effect σ α) (s : σ) :
    result (f <$> m) s = (f (result m s).1, (result m s).2) := rfl

@[simp] theorem result_liftM (m : Logged α) (s : σ) :
    result (liftM m : Effect σ α) s = (m.value, s) := rfl

/-- The lines that code logs in a state. -/
def lines (m : Effect σ α) (s : σ) : List Log.Line := (m s).lines

@[simp] theorem lines_pure (a : α) (s : σ) : lines (pure a) s = [] := rfl

@[simp] theorem lines_bind (m : Effect σ α) (f : α → Effect σ β) (s : σ) :
    lines (m >>= f) s = lines m s ++ lines (f (result m s).1) (result m s).2 := rfl

@[simp] theorem lines_liftM (m : Logged α) (s : σ) :
    lines (liftM m : Effect σ α) s = m.lines :=
  List.append_nil m.lines

end Effect

/-- What abruptly ended a piece of code: a text, or something that is none. -/
inductive Panic where
  | text (message : String)
  | other
  deriving DecidableEq

def Panic.message : Panic → String
  | text message => message
  | other => "The handler panicked"

/-- A supply of random octets, of which some were drawn. -/
structure RandomSource where
  octet : Nat → UInt8
  drawn : Nat

/-- Draw octets from the supply. -/
def RandomSource.draw (count : Nat) : Effect RandomSource (Nat → UInt8) := fun source =>
  pure (fun i => source.octet (source.drawn + i), { source with drawn := source.drawn + count })

end InvocationBridge
