import InvocationBridge.Effect.Log
import InvocationBridge.Text.Blank

/-!
Settings of a deployed application.
-/

namespace InvocationBridge

structure Settings where
  /-- The route that gets the events that are no gateway requests. -/
  eventRoute : String := "/events"
  inputType : Option String := none
  outputType : Option String := none
  deriving DecidableEq

namespace Settings

/-- A variable that is set to more than blanks, without the blanks around it. -/
def given? (lookup : String → Option String) (name : String) : Option String :=
  ((lookup name).map Text.trim).filter (!·.isEmpty)

/-- The settings that variables give. -/
def ofVariables (lookup : String → Option String) : Settings where
  eventRoute := (given? lookup "PET_STORE_EVENT_ROUTE").getD ({} : Settings).eventRoute
  inputType := given? lookup "PET_STORE_INPUT_TYPE"
  outputType := given? lookup "PET_STORE_OUTPUT_TYPE"

/-- The settings that variables give, and a line about them. -/
def load (lookup : String → Option String) : Logged Settings := do
  let settings := ofVariables lookup
  let inputType := settings.inputType.getD "unknown"
  let outputType := settings.outputType.getD "unknown"
  Log.info
    s!"Event route: {settings.eventRoute}, input type: {inputType}, output type: {outputType}"
  return settings

end Settings

end InvocationBridge
