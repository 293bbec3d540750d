import ParamBundle.Fault
import ParamBundle.FilePath

/-! A file system: regular files and directories below one root, and the directory that
relative paths start from. Making directories and writing files change it as a whole;
what a fault leaves behind is part of the answer. Links, permissions, limits on the length
of names and other programs that change files meanwhile are left out. -/

namespace ParamBundle

/-- Names from the innermost out, so that the directory around a place is its tail. The
root is the empty place. -/
abbrev Place := List String

inductive Entry where
  | directory
  | file (content : List UInt8)
deriving DecidableEq

structure FileSystem where
  entries : List (Place × Entry)
  workingDirectory : Place
deriving DecidableEq

/-- Why a path leads nowhere. -/
inductive AccessFault where
  | absent
  | notDirectory
deriving DecidableEq

def AccessFault.storageError : AccessFault → StorageError
  | .absent => .absent
  | .notDirectory => .notDirectory

namespace FileSystem

def entry? (files : FileSystem) : Place → Option Entry
  | [] => some .directory
  | place => files.entries.lookup place

def put (files : FileSystem) (place : Place) (entry : Entry) : FileSystem :=
  { files with entries := (place, entry) :: files.entries.filter (·.1 ≠ place) }

/-- One name further from a directory. Two dots lead outwards, and from the root nowhere
else. -/
def enter (place : Place) (name : String) : Place :=
  if name = "" ∨ name = "." then place
  else if name = ".." then place.tail
  else name :: place

/-- Follows names from a place. Every name but the last must lead to a directory; what
the last one leads to need not exist. -/
def walk (files : FileSystem) (place : Place) : List String → Except AccessFault Place
  | [] => .ok place
  | name :: rest =>
    match files.entry? place with
    | none => .error .absent
    | some (.file _) => .error .notDirectory
    | some .directory => files.walk (enter place name) rest

/-- All places that following the names can pass. -/
def trail (place : Place) : List String → List Place
  | [] => [place]
  | name :: rest => place :: trail (enter place name) rest

def start (files : FileSystem) : PathRoot → Place
  | .relative => files.workingDirectory
  | _ => []

def hasNull (text : String) : Bool := '\x00' ∈ text.toList

/-- What lies at a path. -/
def lookup? (files : FileSystem) (path : FilePath) : Option Entry :=
  match files.walk (files.start path.root) path.parts with
  | .ok place => files.entry? place
  | .error _ => none

/-- What lies at a path as it was typed. Here a slash at the end asks for a directory,
and the empty path leads nowhere. -/
def lookupText? (files : FileSystem) (text : String) : Option Entry :=
  if text.isEmpty then none
  else
    match files.walk (files.start (FilePath.rootOf text.toList)) (FilePath.pieces text) with
    | .ok place => files.entry? place
    | .error _ => none

/-- The content of the regular file at a path. -/
def content? (files : FileSystem) (path : FilePath) : Option (List UInt8) :=
  match files.lookup? path with
  | some (.file content) => some content
  | _ => none

def isDirectory (files : FileSystem) (path : FilePath) : Bool :=
  files.lookup? path = some .directory

/-- The directory that holds the last part of a path, with that part. -/
def container (files : FileSystem) (path : FilePath) : Except AccessFault (Place × Option String) :=
  match files.walk (files.start path.root) path.parts.dropLast with
  | .error fault => .error fault
  | .ok place =>
    match files.entry? place with
    | none => .error .absent
    | some (.file _) => .error .notDirectory
    | some .directory => .ok (place, path.parts.getLast?)

/-- Makes one directory. Its name must be new, and two dots are never new. -/
def makeDirectory (files : FileSystem) (path : FilePath) : Except StorageError FileSystem :=
  match files.container path with
  | .error fault => .error fault.storageError
  | .ok (_, none) => .error .occupied
  | .ok (place, some name) =>
    if name = ".." ∨ (files.entry? (name :: place)).isSome then .error .occupied
    else .ok (files.put (name :: place) .directory)

/-- Makes one directory unless it is there. -/
def provideDirectory (files : FileSystem) (path : FilePath) : Except StorageError FileSystem :=
  match files.makeDirectory path with
  | .error .occupied => if files.isDirectory path then .ok files else .error .occupied
  | other => other

/-- Makes a directory and those around it that are missing. The directory itself is tried
first; only when something around it is missing are the outer ones made. -/
def provideDirectories (files : FileSystem) (path : FilePath) : FileSystem × Option Fault :=
  match files.provideDirectory path with
  | .ok made => (made, none)
  | .error .absent =>
    if path.parts = [] then (files, some (.storage .absent path.toString))
    else
      match files.provideDirectories path.parent with
      | (outer, some fault) => (outer, some fault)
      | (outer, none) =>
        match outer.provideDirectory path with
        | .ok made => (made, none)
        | .error error => (outer, some (.storage error path.toString))
  | .error error => (files, some (.storage error path.toString))
termination_by path.parts.length
decreasing_by
  have := List.length_pos_iff.mpr ‹path.parts ≠ []›
  simp only [FilePath.parent, List.length_dropLast]
  omega

/-- Writes a regular file, whether or not it was there. -/
def writeFile (files : FileSystem) (path : FilePath) (content : List UInt8) :
    Except Fault FileSystem :=
  let refuse (error : StorageError) : Except Fault FileSystem :=
    .error (.storage error path.toString)
  match files.container path with
  | .error fault => refuse fault.storageError
  | .ok (_, none) => refuse .isDirectory
  | .ok (place, some name) =>
    if name = ".." then refuse .isDirectory
    else
      match files.entry? (name :: place) with
      | some .directory => refuse .isDirectory
      | _ => .ok (files.put (name :: place) (.file content))

/-- Writes a file in a directory that is made if need be. -/
def store (files : FileSystem) (path : FilePath) (content : List UInt8) :
    FileSystem × Except Fault Unit :=
  if hasNull path.toString then (files, .error .nullInPath)
  else
    match files.provideDirectories path.parent with
    | (made, some fault) => (made, .error fault)
    | (made, none) =>
      match made.writeFile path content with
      | .ok written => (written, .ok ())
      | .error fault => (made, .error fault)

end FileSystem
end ParamBundle
