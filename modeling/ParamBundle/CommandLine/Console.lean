import ParamBundle.CommandTable

/-! Runs of the command line. A console, which is not part of the program, reads the
arguments and shows how the program's own part ended. The program's part begins with an
order and ends with a text to show, with a refusal or with a fault it does not answer for. -/

namespace ParamBundle.CommandLine

/-- How a run ends: with a usage error, with a status and what it printed, or with a
fault that is passed on. -/
inductive Ending where
  | usage
  | finished (status : Nat) (stdout stderr : String)
  | failed (fault : Fault)
deriving DecidableEq

/-- The same ending with a text in front of what it printed to the error stream. -/
def Ending.after (log : String) : Ending → Ending
  | .finished status stdout stderr => .finished status stdout (log ++ stderr)
  | ending => ending

/-- A request to generate, with what the arguments settle. -/
structure Order where
  descriptor : String
  name : String
  package : Option String
  outputDirectory : Option String
deriving DecidableEq

/-- What the arguments of a run come to. The console answers them by itself if they ask
for nothing that the program does, or ask for it wrongly. -/
inductive Request where
  | answered (ending : Ending)
  | generate (verbose : Bool) (order : Order)
deriving DecidableEq

/-- How the program's part of a run ends. -/
inductive Finish where
  | shown (text : String) (newline : Bool)
  | refused (message : String)
  | raised (fault : Fault)
deriving DecidableEq

structure Console where
  read : FileSystem → List String → Request
  conclude : Finish → Ending

def Order.arguments (order : Order) : Arguments :=
  let text (value : Option String) : Json := (value.map Json.string).getD .null
  [("name", .string order.name), ("package", text order.package),
    ("output_dir", text order.outputDirectory)]

def Order.outcome (order : Order) (files : FileSystem) : Outcome :=
  CommandTable.standard.apply files "introduce-parameter-object" (.ofString order.descriptor)
    order.arguments

/-- The source is shown unless it went to a file. A rejected input is refused. -/
def Order.finish (order : Order) : Except Fault String → Finish
  | .ok source =>
    match order.outputDirectory with
    | none => .shown source false
    | some text => .shown s!"Generated {order.name} in {(FilePath.ofString text).toString}" true
  | .error fault =>
    if fault.isRejection then
      .refused s!"refactoring aborted, no changes applied: {fault.message}"
    else .raised fault

def logText (log : List LogRecord) : String := Text.unlines (log.map (·.line))

namespace Console
variable (console : Console) (files : FileSystem) (arguments : List String)

/-- What a run logs for its user to see. -/
def shownLog : List LogRecord :=
  match console.read files arguments with
  | .generate true order => (order.outcome files).log
  | _ => []

def run : Ending × FileSystem :=
  match console.read files arguments with
  | .answered ending => (ending, files)
  | .generate _ order =>
    let outcome := order.outcome files
    let ending := console.conclude (order.finish outcome.result)
    (ending.after (logText (console.shownLog files arguments)), outcome.files)

/-- What a run prints to the error stream by itself, before a fault is passed on. -/
def errorText : String :=
  match (console.run files arguments).1 with
  | .finished _ _ stderr => stderr
  | _ => logText (console.shownLog files arguments)

end Console
end ParamBundle.CommandLine
