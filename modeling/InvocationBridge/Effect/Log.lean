/-!
Log lines, and computations that write them.

Code can write to the log and cannot read it, so what is logged never changes a result.
-/

namespace InvocationBridge

namespace Log

inductive Level where
  | error
  | warn
  | info
  | debug
  deriving DecidableEq

namespace Level

def name : Level → String
  | error => "ERROR"
  | warn => "WARN"
  | info => "INFO"
  | debug => "DEBUG"

/-- How much detail a level is: a log shows the levels up to its own. -/
def rank : Level → Nat
  | error => 0
  | warn => 1
  | info => 2
  | debug => 3

end Level

structure Line where
  level : Level
  text : String
  deriving DecidableEq

end Log

/-- A result and the lines that were logged on the way. -/
structure Logged (α : Type) where
  value : α
  lines : List Log.Line

namespace Logged

variable {α β : Type}

instance : Monad Logged where
  pure a := ⟨a, []⟩
  bind m f := ⟨(f m.value).value, m.lines ++ (f m.value).lines⟩

@[simp] theorem value_pure (a : α) : (pure a : Logged α).value = a := rfl

@[simp] theorem value_bind (m : Logged α) (f : α → Logged β) :
    (m >>= f).value = (f m.value).value := rfl

@[simp] theorem value_map (f : α → β) (m : Logged α) : (f <$> m).value = f m.value := rfl

@[simp] theorem lines_pure (a : α) : (pure a : Logged α).lines = [] := rfl

@[simp] theorem lines_bind (m : Logged α) (f : α → Logged β) :
    (m >>= f).lines = m.lines ++ (f m.value).lines := rfl

instance : LawfulMonad Logged :=
  LawfulMonad.mk' Logged
    (fun _ => by simp [Functor.map])
    (fun _ _ => rfl)
    (fun _ _ _ => by simp [bind, List.append_assoc])

end Logged

namespace Log

def write (level : Level) (text : String) : Logged Unit := ⟨(), [⟨level, text⟩]⟩

def error (text : String) : Logged Unit := write .error text

def warn (text : String) : Logged Unit := write .warn text

def info (text : String) : Logged Unit := write .info text

def debug (text : String) : Logged Unit := write .debug text

end Log

end InvocationBridge
