import ParamBundle.CommandLine.Footprint

/-! The program. It looks at the places a run depends on, runs on what it saw, and then
makes the directories and the file that the run added. -/

namespace ParamBundle.Program

def placeText (place : Place) : String := "/" ++ "/".intercalate place.reverse

def look (place : Place) : IO (Option Entry) := do
  let path := (← IO.currentDir) / placeText place
  if ← path.isDir then return some .directory
  if ← path.pathExists then return some (.file (← IO.FS.readBinFile path).toList)
  return none

def observe (files : FileSystem) (places : List Place) : IO FileSystem :=
  places.foldlM (fun files place => do
    match ← look place with
    | some entry => return files.put place entry
    | none => return files) files

def workingDirectory : IO Place := do
  let text := (← IO.currentDir).toString
  return (FilePath.ofString text).parts.reverse

/-- Directories come before what lies in them: outer places have fewer names. -/
def additions (before after : FileSystem) : List (Place × Entry) :=
  let new := after.entries.filter fun (place, entry) => before.entry? place ≠ some entry
  new.mergeSort fun first second => first.1.length ≤ second.1.length

def perform (addition : Place × Entry) : IO Unit := do
  match addition with
  | (place, .directory) => IO.FS.createDir (placeText place)
  | (place, .file content) => IO.FS.writeBinFile (placeText place) ⟨content.toArray⟩

def conclude (stderr : String) : CommandLine.Ending → IO UInt32
  | .usage => do
    IO.eprintln "Usage: paramobject [-v] introduce-parameter-object DESCRIPTOR --name NAME"
    return 2
  | .finished status stdout _ => do
    IO.print stdout
    IO.eprint stderr
    return .ofNat status
  | .failed fault => do
    IO.eprint stderr
    IO.eprintln fault.message
    return 1

def run (arguments : List String) : IO UInt32 := do
  let start : FileSystem := { entries := [], workingDirectory := ← workingDirectory }
  let here := FileSystem.trail [] start.workingDirectory.reverse
  let files ← observe start (here ++ CommandLine.inputPlaces start arguments)
  let files ← observe files (CommandLine.targetPlaces files arguments)
  let (ending, after) := CommandLine.run files arguments
  (additions files after).forM perform
  conclude (CommandLine.Console.standard.errorText files arguments) ending

end ParamBundle.Program

def main (arguments : List String) : IO UInt32 := ParamBundle.Program.run arguments
