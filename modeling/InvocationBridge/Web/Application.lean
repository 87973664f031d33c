import InvocationBridge.Web.Request
import InvocationBridge.Web.Response

/-!
Applications that answer requests.

Everything an application does is an effect on its own state, and each part of it may panic.
-/

namespace InvocationBridge

/-- An application with handlers of a type `H`. `amend` may change a failure before it is
recorded. -/
structure Application (σ H : Type) where
  find : Http.Method → String → Effect σ (Ending H)
  run : H → Request → Response → Effect σ (Ending Unit × Response)
  amend : Failure → Request → Effect σ (Except Panic Failure) := fun failure _ => pure (.ok failure)

end InvocationBridge
