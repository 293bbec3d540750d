import ParamBundle.TypeText

/-! Members of the generated class. All text that comes from one field is settled here,
once, before any line of the class is written. -/

namespace ParamBundle

/-- Stores a parameter in a field. The field is named through the object when the
parameter hides it. -/
structure Assignment where
  qualified : Bool
  field : String
  parameter : String
deriving DecidableEq

def Assignment.text (assignment : Assignment) : String :=
  (if assignment.qualified then "this." else "") ++ assignment.field ++ " = " ++
    assignment.parameter ++ ";"

structure Member where
  fieldName : String
  parameterName : String
  capitalizedName : String
  declarationType : String
  storageType : String
  isBoolean : Bool
  /-- Annotations whose types are known, each followed by a space. -/
  annotations : String
  documentation : Option String
  finalParameter : Bool
  setterRequired : Bool
deriving DecidableEq

/-- Nothing is written for an annotation whose type is unknown. -/
def AnnotationUse.text (use : AnnotationUse) : String :=
  match use.qualifiedName with
  | some name => if name.isEmpty then "" else "@" ++ name ++ use.arguments ++ " "
  | none => ""

def Parameter.annotationText (parameter : Parameter) : String :=
  String.join (parameter.annotations.map (·.text))

/-- The base name of a parameter under a style, which must not be empty. -/
def Parameter.baseName (parameter : Parameter) (style : Style) : Except Fault String :=
  let name := parameter.name.getD ""
  if name.isEmpty then .error (.malformed parameter.name .noName)
  else
    let base := style.baseName name
    if base.isEmpty then .error (.malformed parameter.name .emptyBaseName) else .ok base

namespace Member

/-- The name is looked at before the type. -/
def resolve (style : Style) (spec : FieldSpec) : Except Fault Member := do
  let parameter := spec.parameter
  let base ← parameter.baseName style
  let declarationType ← parameter.typeAt .declaration
  let storageType ← parameter.typeAt .storage
  return {
    fieldName := style.fieldName parameter.isStatic base
    parameterName := style.parameterName base
    capitalizedName := Text.capitalize base
    declarationType
    storageType
    isBoolean := parameter.typeText = some "boolean"
    annotations := parameter.annotationText
    documentation := parameter.documentation
    finalParameter := style.finalParameters
    setterRequired := spec.setterRequired }

def getterName (member : Member) : String :=
  (if member.isBoolean then "is" else "get") ++ member.capitalizedName

def setterName (member : Member) : String := "set" ++ member.capitalizedName

def declaration (member : Member) : String :=
  member.annotations ++ (if member.finalParameter then "final " else "") ++
    member.declarationType ++ " " ++ member.parameterName

def assignment (member : Member) : Assignment :=
  { qualified := member.fieldName = member.parameterName
    field := member.fieldName
    parameter := member.parameterName }

end Member
end ParamBundle
