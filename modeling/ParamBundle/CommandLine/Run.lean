import ParamBundle.CommandLine.Arguments
import ParamBundle.CommandLine.Console
import ParamBundle.Text.ControlSequence

/-! The console of the program. What is wrong with the arguments is a usage error, found
before the program's own part begins. -/

namespace ParamBundle.CommandLine

/-- The output directory must not be a regular file. -/
def checkOutputDirectory (files : FileSystem) (given : Given) : Except Ending Unit :=
  match given.value? .outputDirectory with
  | none => .ok ()
  | some text =>
    if FileSystem.hasNull text then .error (.failed .nullInPath)
    else
      match files.lookupText? text with
      | some (.file _) => .error .usage
      | _ => .ok ()

/-- The descriptor must be there and must not be a directory. -/
def checkDescriptor (files : FileSystem) (given : Given) : Except Ending String :=
  match given.positionals with
  | [] => .error .usage
  | text :: _ =>
    if FileSystem.hasNull text then .error (.failed .nullInPath)
    else
      match files.lookupText? text with
      | some (.file _) => .ok text
      | _ => .error .usage

def Order.ofGiven (files : FileSystem) (given : Given) : Except Ending Order := do
  checkOutputDirectory files given
  let descriptor ← checkDescriptor files given
  match given.value? .name, given.positionals with
  | some name, [_] =>
    return {
      descriptor, name
      package := given.value? .package
      outputDirectory := given.value? .outputDirectory }
  | _, _ => .error .usage

def versionText : String := "paramobject, version 0.1.0\n"

namespace Request

/-- What the arguments of the subcommand ask for. -/
def ofSubcommand (files : FileSystem) (verbose : Bool) (arguments : List String) : Request :=
  match (Given.read arguments).map (Order.ofGiven files) with
  | none => .answered .usage
  | some (.error ending) => .answered ending
  | some (.ok order) => .generate verbose order

/-- The version is answered without a look at the subcommand. -/
def ofArguments (files : FileSystem) (arguments : List String) : Request :=
  match readFlags {} arguments with
  | none => .answered .usage
  | some (flags, rest) =>
    if flags.version then .answered (.finished 0 versionText "")
    else
      match rest with
      | "introduce-parameter-object" :: arguments => ofSubcommand files flags.verbose arguments
      | _ => .answered .usage

end Request

namespace Console

/-- Terminal control sequences are taken out of what is printed. -/
def standard : Console where
  read := Request.ofArguments
  conclude
    | .shown text newline =>
      .finished 0 (Text.printable (if newline then text ++ "\n" else text)) ""
    | .refused message => .finished 1 "" (Text.printable s!"Error: {message}\n")
    | .raised fault => .failed fault

end Console

def run (files : FileSystem) (arguments : List String) : Ending × FileSystem :=
  Console.standard.run files arguments

end ParamBundle.CommandLine
