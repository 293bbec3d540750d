/-! JSON values. Objects keep their members in document order, since that order shows in
what is reported. -/

namespace ParamBundle

/-- A number as it was written: an integer, or a decimal with the value
`digits * 10 ^ exponent`. The last two have spellings of their own. -/
inductive Json.Number where
  | integer (value : Int)
  | decimal (negative : Bool) (digits : Nat) (exponent : Int)
  | infinite (negative : Bool)
  | undefined
deriving DecidableEq

inductive Json where
  | null
  | bool (value : Bool)
  | number (value : Json.Number)
  | string (value : String)
  | array (items : List Json)
  | object (members : List (String × Json))

namespace Json

/-- A key that was there before keeps its place and takes the new value. -/
def setMember (key : String) (value : Json) : List (String × Json) → List (String × Json)
  | [] => [(key, value)]
  | (known, old) :: rest =>
    if known = key then (known, value) :: rest else (known, old) :: setMember key value rest

def isNull : Json → Bool
  | null => true
  | _ => false

/-- The text itself, for values that are texts. -/
def string? : Json → Option String
  | string value => some value
  | _ => none

def bool? : Json → Option Bool
  | bool value => some value
  | _ => none

/-- All items, when each of them is a text. -/
def strings? : Json → Option (List String)
  | array items => items.mapM string?
  | _ => none

/-- A missing member and a null one are alike here: both leave a text out. -/
def optionalString? : Option Json → Option (Option String)
  | none | some null => some none
  | some (string value) => some (some value)
  | some _ => none

end Json
end ParamBundle
