import ParamBundle.Generation

/-! Commands by name. A name belongs to the command that was registered under it last. The
commands of the library enter a table when their modules are loaded, and a module is loaded
only once. -/

namespace ParamBundle

structure Command where
  /-- What the command is called when it has no name to be called by. -/
  label : String
  name : Option String
  /-- Arguments that must be given, in the order in which missing ones are listed. -/
  required : List String := []
  execute : FileSystem → FilePath → Arguments → Outcome

/-- All missing arguments are reported together. -/
def checkRequired (command : String) (required : List String) (arguments : Arguments) :
    Except Fault Unit :=
  match required.filter fun name => (arguments.given? name).isNone with
  | [] => .ok ()
  | missing => .error (.missingParameters command missing)

def Command.introduceParameterObject : Command :=
  { label := "IntroduceParameterObjectCommand"
    name := some "introduce-parameter-object"
    required := ["name"]
    execute := Generation.run }

/-- A module of the library, named from the package of all commands on. -/
structure CommandModule where
  name : List String
  isPackage : Bool := false
  /-- What is registered when the module is loaded. -/
  commands : List Command := []

namespace CommandModule

/-- What commands are made of, and not a command. -/
def infrastructure : List (List String) := [["base"], ["registry"]]

def isHidden (name : List String) : Bool :=
  match (name.getLast?.getD "").toList with
  | '_' :: _ => true
  | _ => false

def mayRegister (module : CommandModule) : Bool :=
  !module.isPackage && !isHidden module.name && module.name ∉ infrastructure

/-- The modules of the library in the order in which a search meets them. -/
def library : List CommandModule :=
  [{ name := ["base"] },
    { name := ["registry"] },
    { name := ["simplifying_method_calls"], isPackage := true },
    { name := ["simplifying_method_calls", "introduce_parameter_object"]
      commands := [.introduceParameterObject] }]

end CommandModule

structure CommandTable where
  entries : List (String × Command)
  /-- The names of the modules that have been loaded. -/
  loaded : List (List String) := []

namespace CommandTable

def empty : CommandTable := { entries := [] }

def put (table : CommandTable) (name : String) (command : Command) : CommandTable :=
  { table with entries := (name, command) :: table.entries.filter (·.1 ≠ name) }

/-- A command without a name is refused. -/
def register (table : CommandTable) (command : Command) : Except Fault CommandTable :=
  match command.name with
  | some name => .ok (table.put name command)
  | none => .error (.namelessCommand command.label)

/-- Loads a module unless it has been loaded. -/
def load (table : CommandTable) (module : CommandModule) : Except Fault CommandTable :=
  if module.name ∈ table.loaded then .ok table
  else module.commands.foldlM register { table with loaded := module.name :: table.loaded }

/-- The table with the commands of this library. -/
def standard : CommandTable :=
  { empty.put "introduce-parameter-object" .introduceParameterObject with
    loaded := [["simplifying_method_calls", "introduce_parameter_object"]] }

def names (table : CommandTable) : List String :=
  (NameSet.ofList (table.entries.map (·.1))).toList

def get (table : CommandTable) (name : String) : Except Fault Command :=
  match table.entries.lookup name with
  | some command => .ok command
  | none => .error (.unknownCommand name table.names)

/-- A command runs only when its required arguments are there. -/
def apply (table : CommandTable) (files : FileSystem) (name : String) (source : FilePath)
    (arguments : Arguments) : Outcome :=
  match table.get name with
  | .error fault => { result := .error fault, files }
  | .ok command =>
    match checkRequired name command.required arguments with
    | .error fault => { result := .error fault, files }
    | .ok () => command.execute files source arguments

/-- Loads every module that may hold a command and tells which commands there are. -/
def discover (table : CommandTable) : Except Fault (CommandTable × List String) := do
  let found ← (CommandModule.library.filter (·.mayRegister)).foldlM load table
  return (found, found.names)

inductive Call where
  | register (command : Command)
  | get (name : String)
  | list
  | discover
  | apply (files : FileSystem) (name : String) (source : FilePath) (arguments : Arguments)

inductive Answer where
  | done
  | command (found : Command)
  | names (known : List String)
  | outcome (outcome : Outcome)

/-- A refused call changes nothing. -/
def step (table : CommandTable) : Call → Except Fault Answer × CommandTable
  | .register command =>
    match table.register command with
    | .ok next => (.ok .done, next)
    | .error fault => (.error fault, table)
  | .get name => ((table.get name).map .command, table)
  | .list => (.ok (.names table.names), table)
  | .discover =>
    match table.discover with
    | .ok (found, known) => (.ok (.names known), found)
    | .error fault => (.error fault, table)
  | .apply files name source arguments =>
    (.ok (.outcome (table.apply files name source arguments)), table)

/-- The answers of a sequence of calls, each with the table it left. -/
def run (table : CommandTable) : List Call → List (Except Fault Answer × CommandTable)
  | [] => []
  | call :: calls =>
    let done := table.step call
    done :: done.2.run calls

end CommandTable
end ParamBundle
