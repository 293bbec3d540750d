/-! Arguments of the command line. Flags of the whole program come before the subcommand;
after it options and positionals come in any order. Two dashes end the options in either
place. -/

namespace ParamBundle.CommandLine

/-- A dash alone is an argument like any other. -/
def isOption (argument : String) : Bool :=
  match argument.toList with
  | '-' :: _ :: _ => true
  | _ => false

structure Flags where
  verbose : Bool := false
  version : Bool := false
deriving DecidableEq

/-- One argument may hold several one-letter flags. -/
def Flags.add? (flags : Flags) (argument : String) : Option Flags :=
  if argument = "--verbose" then some { flags with verbose := true }
  else if argument = "--version" then some { flags with version := true }
  else
    match argument.toList with
    | '-' :: letters => if letters.all (· == 'v') then some { flags with verbose := true } else none
    | _ => none

/-- The flags, and the arguments from the subcommand on. -/
def readFlags (flags : Flags) : List String → Option (Flags × List String)
  | [] => some (flags, [])
  | argument :: rest =>
    if argument = "--" then some (flags, rest)
    else if isOption argument then
      match flags.add? argument with
      | some flags => readFlags flags rest
      | none => none
    else some (flags, argument :: rest)

inductive OptionName where
  | name
  | package
  | outputDirectory
deriving DecidableEq

def OptionName.ofText? : String → Option OptionName
  | "--name" => some .name
  | "--package" => some .package
  | "--output-dir" => some .outputDirectory
  | _ => none

/-- The text before the first equals sign and, if there is one, the text after it. -/
def splitValue (argument : String) : String × Option String :=
  let chars := argument.toList
  let name := chars.takeWhile (· ≠ '=')
  (String.ofList name,
    match chars.drop name.length with
    | [] => none
    | _ :: value => some (String.ofList value))

/-- Arguments of the subcommand: option values in order, and what is left over. -/
structure Given where
  options : List (OptionName × String) := []
  positionals : List String := []
deriving DecidableEq

namespace Given

/-- A repeated option has its last value. -/
def value? (given : Given) (option : OptionName) : Option String :=
  given.options.reverse.lookup option

def addOption (option : OptionName) (value : String) (given : Given) : Given :=
  { given with options := (option, value) :: given.options }

def addPositional (text : String) (given : Given) : Given :=
  { given with positionals := text :: given.positionals }

/-- The value of an option may look like an option itself. -/
def read : List String → Option Given
  | [] => some {}
  | argument :: rest =>
    if argument = "--" then some { positionals := rest }
    else if isOption argument then
      let (text, value) := splitValue argument
      match OptionName.ofText? text, value, rest with
      | none, _, _ => none
      | some option, some value, rest => (read rest).map (addOption option value)
      | some _, none, [] => none
      | some option, none, value :: rest => (read rest).map (addOption option value)
    else (read rest).map (addPositional argument)

end Given

end ParamBundle.CommandLine
