import ParamBundle.Decimal.Layout
import ParamBundle.Json.Basic
import ParamBundle.Text.Quoted

/-! How a value is shown inside a message. A text at the top is shown bare, one inside a
list or an object in quotes. -/

namespace ParamBundle.Json

def Number.display : Number → String
  | .integer value => toString value
  | .decimal negative digits exponent => Decimal.text negative digits exponent
  | .infinite negative => if negative then "-inf" else "inf"
  | .undefined => "nan"

mutual

def displayInner : Json → String
  | .null => "None"
  | .bool true => "True"
  | .bool false => "False"
  | .number value => value.display
  | .string value => Text.quoted value
  | .array items => "[" ++ ", ".intercalate (displayItems items) ++ "]"
  | .object members => "\x7b" ++ ", ".intercalate (displayMembers members) ++ "\x7d"

def displayItems : List Json → List String
  | [] => []
  | item :: rest => displayInner item :: displayItems rest

def displayMembers : List (String × Json) → List String
  | [] => []
  | (key, value) :: rest => (Text.quoted key ++ ": " ++ displayInner value) :: displayMembers rest

end

def display : Json → String
  | .string value => value
  | other => other.displayInner

/-- The name of a value's type in messages about a value of the wrong type. -/
def typeName : Json → String
  | .null => "NoneType"
  | .bool _ => "bool"
  | .number (.integer _) => "int"
  | .number _ => "float"
  | .string _ => "str"
  | .array _ => "list"
  | .object _ => "dict"

end ParamBundle.Json
