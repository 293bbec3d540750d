import ParamBundle.Draft

/-! Descriptors: all that is needed to render a class apart from its name. -/

namespace ParamBundle

structure Descriptor where
  packageName : String := ""
  typeParameters : List String := []
  style : Style := {}
  fields : List FieldSpec := []
deriving DecidableEq

namespace Descriptor

/-- The draft of the descriptor's class. The names come from outside and are settled
first, the class name before the package. -/
def draft (descriptor : Descriptor) (className packageName : Json) : Except Fault Draft := do
  let start : Draft := { style := some descriptor.style }
  let named ← start.setClassName className
  let packaged ← named.setPackageName packageName
  let generic ← packaged.setTypeParameters (.array (descriptor.typeParameters.map .string))
  return descriptor.fields.foldl Draft.addField generic

def classModel (descriptor : Descriptor) (className packageName : Json) :
    Except Fault ClassModel := do
  let draft ← descriptor.draft className packageName
  draft.classModel

def render (descriptor : Descriptor) (className packageName : Json) : Except Fault String :=
  (descriptor.classModel className packageName).map (·.text)

end Descriptor
end ParamBundle
