import ParamBundle.Descriptor.Basic

/-! Reading descriptors from JSON. The faults of a document are looked for in a fixed
order and the first one is reported: the top level first, then the style, then the
parameter entries one after the other. Only within a style does the order of the
document matter. -/

namespace ParamBundle

namespace Style

/-- Changes one setting, whose value must be of the setting's type. -/
def set (style : Style) (setting : Setting) (value : Json) : Except Fault Style :=
  match setting, value with
  | .fieldPrefix, .string text => .ok { style with fieldPrefix := text }
  | .fieldSuffix, .string text => .ok { style with fieldSuffix := text }
  | .staticFieldPrefix, .string text => .ok { style with staticFieldPrefix := text }
  | .staticFieldSuffix, .string text => .ok { style with staticFieldSuffix := text }
  | .parameterPrefix, .string text => .ok { style with parameterPrefix := text }
  | .parameterSuffix, .string text => .ok { style with parameterSuffix := text }
  | .finalParameters, .bool flag => .ok { style with finalParameters := flag }
  | setting, _ => .error (.configuration (.settingOfWrongType setting))

def unknownKeys (members : List (String × Json)) : List String :=
  (members.map (·.1)).filter fun key => (Setting.ofKey? key).isNone

def setMember (style : Style) (member : String × Json) : Except Fault Style :=
  match Setting.ofKey? member.1 with
  | some setting => style.set setting member.2
  | none => .error (.configuration (.unknownSettings (.ofList [member.1])))

/-- Unknown keys are reported all together, before any value is looked at. -/
def ofJson : Json → Except Fault Style
  | .null => .ok {}
  | .object members =>
    match unknownKeys members with
    | [] => members.foldlM setMember {}
    | unknown => .error (.configuration (.unknownSettings (.ofList unknown)))
  | _ => .error (.configuration .styleNotObject)

end Style

/-- Reads an annotation entry of the named parameter. -/
def AnnotationUse.ofJson (parameterName : Option String) : Json → Except Fault AnnotationUse
  | .object members =>
    match Json.optionalString? (members.lookup "name"),
        Json.optionalString? (members.lookup "arguments") with
    | some qualifiedName, some arguments =>
      .ok { qualifiedName, arguments := arguments.getD "" }
    | _, _ => .error (.malformed parameterName .annotationNotTexts)
  | _ => .error (.malformed parameterName .annotationNotObject)

namespace FieldSpec

/-- A text that must be there and must not be empty. -/
def requiredText? (value : Option Json) : Option String :=
  (value.bind Json.string?).filter (!·.isEmpty)

/-- A flag is off when it is left out; null does not leave it out. -/
def flag (name key : String) (members : List (String × Json)) : Except Fault Bool :=
  match members.lookup key with
  | none => .ok false
  | some value =>
    match value.bool? with
    | some flag => .ok flag
    | none => .error (.malformed (some name) (.flagNotBoolean key))

/-- Reads an entry whose name is known. -/
def ofMembers (name : String) (members : List (String × Json)) : Except Fault FieldSpec := do
  let refuse {α : Type} (cause : ParameterFault) : Except Fault α := .error (.malformed name cause)
  let some typeText := requiredText? (members.lookup "type") | refuse .entryWithoutType
  let varArgs ← flag name "var_args" members
  let setterRequired ← flag name "setter" members
  let some modifiers := ((members.lookup "modifiers").getD (.array [])).strings?
    | refuse .modifiersNotTexts
  let .array annotations := (members.lookup "annotations").getD (.array [])
    | refuse .annotationsNotList
  let some documentation := Json.optionalString? (members.lookup "doc")
    | refuse .documentationNotText
  let annotations ← annotations.mapM (AnnotationUse.ofJson name)
  let parameter : Parameter :=
    { name, typeText, varArgs, modifiers := .ofList modifiers, annotations, documentation }
  return { parameter, setterRequired }

def ofJson : Json → Except Fault FieldSpec
  | .object members =>
    match requiredText? (members.lookup "name") with
    | some name => ofMembers name members
    | none => .error (.malformed none .entryWithoutName)
  | _ => .error (.malformed none .entryNotObject)

end FieldSpec

namespace Descriptor

/-- Reads the top level of a document that came from `source`. -/
def ofMembers (source : String) (members : List (String × Json)) : Except Fault Descriptor := do
  let refuse {α : Type} (cause : ConfigurationFault) : Except Fault α :=
    .error (.configuration cause)
  let some packageName := Json.optionalString? (members.lookup "package")
    | refuse (.packageNotText source)
  let some typeParameters := ((members.lookup "type_parameters").getD (.array [])).strings?
    | refuse (.typeParametersNotTexts source)
  let .array parameters := (members.lookup "parameters").getD (.array [])
    | refuse (.parametersNotList source)
  let style ← Style.ofJson ((members.lookup "style").getD .null)
  let fields ← parameters.mapM FieldSpec.ofJson
  return { packageName := packageName.getD "", typeParameters, style, fields }

def ofJson (source : String) : Json → Except Fault Descriptor
  | .object members => ofMembers source members
  | _ => .error (.configuration (.documentNotObject source))

def parse (source text : String) : Except Fault Descriptor :=
  match Json.read text with
  | .ok json => ofJson source json
  | .error (.flawed flaw position) => .error (.configuration (.invalidJson source flaw position))
  | .error (.oversized digits) => .error (.oversizedInteger digits)

end Descriptor
end ParamBundle
