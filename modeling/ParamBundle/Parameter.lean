import ParamBundle.NameSet

/-! Snapshots of the parameters that become fields. They refer to nothing else, so what
is generated depends on them alone. -/

namespace ParamBundle

/-- An annotation on a parameter. Its name is missing when its type is unknown; its
arguments are source text with the parentheses, or empty. -/
structure AnnotationUse where
  qualifiedName : Option String
  arguments : String := ""
deriving DecidableEq

def AnnotationUse.isResolved (use : AnnotationUse) : Bool :=
  use.qualifiedName.any (!·.isEmpty)

structure Parameter where
  name : Option String
  typeText : Option String
  varArgs : Bool := false
  modifiers : NameSet := .empty
  annotations : List AnnotationUse := []
  documentation : Option String := none
deriving DecidableEq

def Parameter.isStatic (parameter : Parameter) : Bool := "static" ∈ parameter.modifiers

/-- A field of the generated class. Without a setter the constructor alone sets it. -/
structure FieldSpec where
  parameter : Parameter
  setterRequired : Bool := false
deriving DecidableEq

end ParamBundle
