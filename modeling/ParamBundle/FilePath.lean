import ParamBundle.Identifier

/-! File paths as they are written. A path is its root and its parts; repeated slashes,
single dots and a slash at the end are not kept, two dots are. -/

namespace ParamBundle

/-- Two slashes in front are kept apart from one, more than two are not. -/
inductive PathRoot where
  | relative
  | single
  | double
deriving DecidableEq

structure FilePath where
  root : PathRoot
  parts : List String
deriving DecidableEq

namespace FilePath

/-- The pieces between slashes; a text without slashes is its own only piece. -/
def splitSlashes : List Char → List (List Char)
  | [] => [[]]
  | c :: rest =>
    if c = '/' then [] :: splitSlashes rest
    else
      match splitSlashes rest with
      | [] => [[c]]
      | piece :: pieces => (c :: piece) :: pieces

def pieces (text : String) : List String := (splitSlashes text.toList).map String.ofList

def rootOf : List Char → PathRoot
  | '/' :: '/' :: '/' :: _ => .single
  | '/' :: '/' :: _ => .double
  | '/' :: _ => .single
  | _ => .relative

def isPart (piece : String) : Bool := piece ≠ "" && piece ≠ "."

def ofString (text : String) : FilePath :=
  { root := rootOf text.toList
    parts := (pieces text).filter isPart }

def toString (path : FilePath) : String :=
  let start :=
    match path.root with
    | .relative => ""
    | .single => "/"
    | .double => "//"
  let shown := start ++ "/".intercalate path.parts
  if shown.isEmpty then "." else shown

/-- A path with a root of its own stays what it is. -/
def append (base next : FilePath) : FilePath :=
  match next.root with
  | .relative => { base with parts := base.parts ++ next.parts }
  | _ => next

instance : Append FilePath := ⟨append⟩

/-- Without its last part. A path that has none is its own parent. -/
def parent (path : FilePath) : FilePath := { path with parts := path.parts.dropLast }

/-- Where the source of a class lies below a directory: in a directory for each segment
of its package. -/
def ofClass (directory : FilePath) (packageName className : String) : FilePath :=
  (packageSegments packageName).foldl (fun path segment => path ++ ofString segment) directory ++
    ofString (className ++ ".java")

end FilePath
end ParamBundle
