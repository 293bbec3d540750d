import ParamBundle.Text.Basic
import ParamBundle.Text.Uppercase

/-! Naming conventions. A parameter's base name is what remains of its name without the
parameter convention; every generated name puts a convention around the base name, so
that a field and its accessors agree on it. -/

namespace ParamBundle

structure Style where
  fieldPrefix : String := ""
  fieldSuffix : String := ""
  staticFieldPrefix : String := ""
  staticFieldSuffix : String := ""
  parameterPrefix : String := ""
  parameterSuffix : String := ""
  finalParameters : Bool := false
deriving DecidableEq

namespace Style

/-- The end is looked for in what remains after the beginning is gone, so the two never
take the same characters. -/
def stripAffixes (start finish name : List Char) : List Char :=
  let stripped := (Text.dropStart? start name).getD name
  (Text.dropEnd? finish stripped).getD stripped

def baseName (style : Style) (name : String) : String :=
  String.ofList (stripAffixes style.parameterPrefix.toList style.parameterSuffix.toList name.toList)

def fieldName (style : Style) (isStatic : Bool) (base : String) : String :=
  if isStatic then style.staticFieldPrefix ++ base ++ style.staticFieldSuffix
  else style.fieldPrefix ++ base ++ style.fieldSuffix

def parameterName (style : Style) (base : String) : String :=
  style.parameterPrefix ++ base ++ style.parameterSuffix

/-- What a descriptor may set, in the order in which styles are written out. -/
inductive Setting where
  | fieldPrefix
  | fieldSuffix
  | staticFieldPrefix
  | staticFieldSuffix
  | parameterPrefix
  | parameterSuffix
  | finalParameters
deriving DecidableEq

namespace Setting

def all : List Setting :=
  [.fieldPrefix, .fieldSuffix, .staticFieldPrefix, .staticFieldSuffix, .parameterPrefix,
    .parameterSuffix, .finalParameters]

def key : Setting → String
  | .fieldPrefix => "field_name_prefix"
  | .fieldSuffix => "field_name_suffix"
  | .staticFieldPrefix => "static_field_name_prefix"
  | .staticFieldSuffix => "static_field_name_suffix"
  | .parameterPrefix => "parameter_name_prefix"
  | .parameterSuffix => "parameter_name_suffix"
  | .finalParameters => "generate_final_parameters"

def ofKey? (key : String) : Option Setting := all.find? (·.key == key)

end Setting
end Style
end ParamBundle
