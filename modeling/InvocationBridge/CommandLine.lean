import InvocationBridge.Function.Deployment

/-!
The command line: one local invocation of the pet store with a payload from a file.
-/

namespace InvocationBridge.CommandLine

/-- What the program is given: its arguments after its own name, its environment, and the files it
can read. -/
structure Surroundings where
  program : String := "pet-store-lambda"
  arguments : List String
  environment : String → Option String
  file? : String → Option Bytes

/-- What the program comes to. Without a payload file it would serve the platform. -/
inductive Result where
  | done (output : String)
  | failure
  | serve
  deriving DecidableEq

def Result.exitCode : Result → Nat
  | done _ => 0
  | failure => 1
  | serve => 1

def Result.output : Result → String
  | done output => output
  | _ => ""

def usage : String :=
  "A sample pet store running inside AWS Lambda.\n\n" ++
  "Under the Lambda runtime: pet-store-lambda\n" ++
  "With a local payload: pet-store-lambda [payload_file], " ++
  "e.g. pet-store-lambda get-pets.json\n\n" ++
  "Env vars: PET_STORE_EVENT_ROUTE, PET_STORE_INPUT_TYPE, PET_STORE_OUTPUT_TYPE, RUST_LOG\n"

/-- Invoke the pet store once with the payload of a file, which must be text. -/
def invokeFile (s : Surroundings) (settings : Settings) (file : String) :
    Effect RandomSource Result := do
  match (s.file? file).bind Bytes.text? with
  | none => return .failure
  | some payload =>
    Log.info s!"Payload from: {file}"
    let deployment := Deployment.ofPetStore settings
    let context : InvocationContext := {}
    let (result, _) ← deployment.invoke (Bytes.ofText payload) (.ok context.toJson)
    match result with
    | .ok (.ok output) => return .done (output.textLossy ++ "\n")
    | .ok (.error _) => return .failure
    | .error _ => return .failure

def run (s : Surroundings) : Effect RandomSource Result := do
  let settings ← Settings.load s.environment
  Log.debug s!"Args: {String.intercalate blank (s.program :: s.arguments)}"
  match s.arguments with
  | [] => return .serve
  | "--help" :: _ => return .done usage
  | file :: _ => invokeFile s settings file
where
  blank : String := " "

/-- A character of a log line. Those that could steer a terminal are shown by their codes. -/
def showChar (c : Char) : List Char :=
  let n := c.toNat
  if n = 0x1B ∨ n = 0x07 ∨ n = 0x08 ∨ n = 0x0C ∨ n = 0x7F then
    ['\\', 'x', Hex.digit (n / 16), Hex.digit (n % 16)]
  else if 0x80 ≤ n ∧ n < 0xA0 then ['\\', 'u', '\x7b'] ++ Hex.ofNat n ++ ['\x7d']
  else [c]

/-- A log line on the terminal: the level in five columns, and the text. -/
def showLine (line : Log.Line) : String :=
  let padding := String.ofList (List.replicate (5 - line.level.name.length) ' ')
  let text := String.ofList (line.text.toList.flatMap showChar)
  s!"{padding}{line.level.name} {text}\n"

/-- The log lines up to a level. -/
def showLines (upTo : Option Log.Level) (lines : List Log.Line) : String :=
  match upTo with
  | none => ""
  | some level => String.join ((lines.filter (·.level.rank ≤ level.rank)).map showLine)

/-- Everything the program writes: the log up to a level, and the output. -/
def terminal (upTo : Option Log.Level) (s : Surroundings) (source : RandomSource) :
    Result × String :=
  let logged := (run s).run source
  let result := logged.value.1
  (result, showLines upTo logged.lines ++ result.output)

/-- The level up to which a variable asks for log lines, by name in any case or by number. Without
it, informative lines are shown. -/
def levelOf : Option String → Option Log.Level
  | none => some .info
  | some wanted =>
    match String.ofList (wanted.toList.map Char.toLower) with
    | "off" | "0" => none
    | "" | "error" | "1" => some .error
    | "warn" | "2" => some .warn
    | "debug" | "4" | "trace" | "5" => some .debug
    | _ => some .info

end InvocationBridge.CommandLine
