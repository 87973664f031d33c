import InvocationBridge.CommandLine

/-!
The program.
-/

namespace InvocationBridge

/-- The variables that the program looks at. -/
def variableNames : List String :=
  ["PET_STORE_EVENT_ROUTE", "PET_STORE_INPUT_TYPE", "PET_STORE_OUTPUT_TYPE", "RUST_LOG"]

def readVariables : IO (Fields String) :=
  variableNames.foldlM (fun fields name => do
    match ← IO.getEnv name with
    | some value => return fields.insert name value
    | none => return fields) []

/-- The file that is named by the first argument. -/
def readPayload (args : List String) : IO (Option Bytes) := do
  match args with
  | [] => return none
  | file :: _ =>
    try
      return some (← IO.FS.readBinFile file).toList
    catch _ => return none

end InvocationBridge

open InvocationBridge in
def main (args : List String) : IO UInt32 := do
  let environment ← readVariables
  let payload ← readPayload args
  let random ← IO.getRandomBytes 4096
  let surroundings : CommandLine.Surroundings :=
    { arguments := args, environment := environment.get?, file? := fun _ => payload }
  let level := CommandLine.levelOf (environment.get? "RUST_LOG")
  let (result, text) :=
    CommandLine.terminal level surroundings ⟨fun i => random.data.getD i 0, 0⟩
  IO.print text
  if result = .serve then
    IO.eprintln "A payload file is needed; see --help."
  return result.exitCode.toUInt32
