import ParamBundle.Fault
import ParamBundle.Parameter
import ParamBundle.Text.Basic

/-! Types as they are written at the two places where a parameter's type appears. A
variable-arity type may be given as an array or with an ellipsis; either way its last
dimension is replaced by what the place calls for. -/

namespace ParamBundle

/-- Parameters of the constructor and of setters are declared; fields and the results of
getters are stored. -/
inductive TypeSite where
  | declaration
  | storage
deriving DecidableEq

/-- What marks the last dimension of a variable-arity type. -/
def TypeSite.suffix : TypeSite → String
  | .declaration => "..."
  | .storage => "[]"

/-- The text before the suffix, without the blanks that separate the two. -/
def componentBefore? (site : TypeSite) (typeText : List Char) : Option (List Char) :=
  match Text.dropEnd? site.suffix.toList typeText with
  | none => none
  | some stem =>
    match Text.dropTrailing Text.isBlankChar stem with
    | [] => none
    | component => some component

/-- The element type of a variable-arity parameter. An ellipsis is looked for first. -/
def componentType? (typeText : String) : Option String :=
  let trimmed := Text.dropTrailing Text.isBlankChar typeText.toList
  (componentBefore? .declaration trimmed <|> componentBefore? .storage trimmed).map String.ofList

def componentType (name : Option String) (typeText : String) : Except Fault String :=
  match componentType? typeText with
  | some component => .ok component
  | none => .error (.malformed name (.notArray typeText))

def Parameter.typeAt (parameter : Parameter) (site : TypeSite) : Except Fault String :=
  let typeText := parameter.typeText.getD ""
  if Text.isBlank typeText then .error (.malformed parameter.name .noType)
  else if parameter.varArgs then
    (componentType parameter.name typeText).map (· ++ site.suffix)
  else .ok typeText

end ParamBundle
