/-! Identifiers and dotted package names of the generated source. Both are ASCII only. -/

namespace ParamBundle

def isIdentifierStart (c : Char) : Bool := c.isAlpha || c == '_' || c == '$'

def isIdentifierPart (c : Char) : Bool := c.isAlphanum || c == '_' || c == '$'

def isIdentifier (text : String) : Bool :=
  match text.toList with
  | [] => false
  | first :: rest => isIdentifierStart first && rest.all isIdentifierPart

/-- Reads identifiers separated by single dots. The flag tells whether an identifier
must begin here. -/
def readsAsDotted : Bool → List Char → Bool
  | beginning, [] => !beginning
  | true, c :: rest => isIdentifierStart c && readsAsDotted false rest
  | false, c :: rest =>
    if c = '.' then readsAsDotted true rest else isIdentifierPart c && readsAsDotted false rest

def isDottedIdentifier (text : String) : Bool := readsAsDotted true text.toList

/-- The pieces between dots; a text without dots is its own only piece. -/
def splitDots : List Char → List (List Char)
  | [] => [[]]
  | c :: rest =>
    if c = '.' then [] :: splitDots rest
    else
      match splitDots rest with
      | [] => [[c]]
      | piece :: pieces => (c :: piece) :: pieces

/-- Directory names of a package, outermost first. The default package has none. -/
def packageSegments (package : String) : List String :=
  if package.isEmpty then [] else (splitDots package.toList).map String.ofList

end ParamBundle
