import ParamBundle.Descriptor.File

/-! One generation from descriptor file to class source. Everything that can be wrong with
the input is found before the file system is touched. -/

namespace ParamBundle

/-- The named values a command is called with. -/
abbrev Arguments := List (String × Json)

/-- A null argument counts as left out. -/
def Arguments.given? (arguments : Arguments) (name : String) : Option Json :=
  (arguments.lookup name).filter (!·.isNull)

inductive LogRecord where
  | loaded (fields : Nat) (source : String)
  | rendering (className : String) (fields : Nat)
  | wrote (target : String)
deriving DecidableEq

/-- The record as a line, with its level and the part of the program that speaks. -/
def LogRecord.line : LogRecord → String
  | .loaded fields source =>
    s!"DEBUG paramobject.core.descriptor: Loaded {fields} parameter(s) from {source}"
  | .rendering className fields =>
    "DEBUG paramobject.core.builder: " ++
      s!"Rendering parameter object {className} with {fields} field(s)"
  | .wrote target =>
    "INFO paramobject.commands.simplifying_method_calls.introduce_parameter_object: " ++
      s!"Wrote {target}"

/-- What a run answers, the files after it, and what it logged on the way. -/
structure Outcome where
  result : Except Fault String
  files : FileSystem
  log : List LogRecord := []

namespace Generation

def outputDirectory (arguments : Arguments) : Except Fault (Option FilePath) :=
  match arguments.given? "output_dir" with
  | none => .ok none
  | some (.string text) => .ok (some (.ofString text))
  | some other => .error (.misuse (.notPath other.typeName))

/-- A package among the arguments goes before the descriptor's own. -/
def packageName (descriptor : Descriptor) (arguments : Arguments) : Json :=
  (arguments.given? "package").getD (.string descriptor.packageName)

def classModel (descriptor : Descriptor) (arguments : Arguments) : Except Fault ClassModel :=
  match arguments.lookup "name" with
  | some className => descriptor.classModel className (packageName descriptor arguments)
  | none => .error (.misuse (.absentParameter "name"))

/-- Writes the class below the output directory, if there is one. -/
def finish (files : FileSystem) (arguments : Arguments) (model : ClassModel)
    (log : List LogRecord) : Outcome :=
  match outputDirectory arguments with
  | .error fault => { result := .error fault, files, log }
  | .ok none => { result := .ok model.text, files, log }
  | .ok (some directory) =>
    let target := FilePath.ofClass directory model.packageName model.className
    match files.store target (Text.encodeUtf8 model.text) with
    | (after, .ok ()) =>
      { result := .ok model.text, files := after, log := log ++ [.wrote target.toString] }
    | (after, .error fault) => { result := .error fault, files := after, log }

def run (files : FileSystem) (source : FilePath) (arguments : Arguments) : Outcome :=
  match Descriptor.load files source with
  | .error fault => { result := .error fault, files }
  | .ok descriptor =>
    let loaded := LogRecord.loaded descriptor.fields.length source.toString
    match classModel descriptor arguments with
    | .error fault => { result := .error fault, files, log := [loaded] }
    | .ok model =>
      finish files arguments model [loaded, .rendering model.className model.members.length]

end Generation
end ParamBundle
