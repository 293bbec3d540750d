import ParamBundle.CommandLine.Run

/-! Which places of the file system a run can depend on. The descriptor and the output
directory are named by the arguments; where the class goes is known only once the
descriptor has been read. -/

namespace ParamBundle.CommandLine

def given? (arguments : List String) : Option Given :=
  match readFlags {} arguments with
  | some (_, _ :: rest) => Given.read rest
  | _ => none

def typedPlaces (files : FileSystem) (text : String) : List Place :=
  FileSystem.trail (files.start (FilePath.rootOf text.toList)) (FilePath.pieces text)

def inputPlaces (files : FileSystem) (arguments : List String) : List Place :=
  match given? arguments with
  | none => []
  | some given =>
    (given.positionals ++ (given.value? .outputDirectory).toList).flatMap (typedPlaces files)

/-- The way to the file of the class, once the files hold the descriptor. -/
def targetPlaces (files : FileSystem) (arguments : List String) : List Place :=
  match (given? arguments).map (Order.ofGiven files) with
  | some (.ok order) =>
    match order.outputDirectory, Descriptor.load files (.ofString order.descriptor) with
    | some directory, .ok descriptor =>
      match Generation.classModel descriptor order.arguments with
      | .ok model =>
        let target := FilePath.ofClass (.ofString directory) model.packageName model.className
        FileSystem.trail (files.start target.root) target.parts
      | .error _ => []
    | _, _ => []
  | _ => []

end ParamBundle.CommandLine
