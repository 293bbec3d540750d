import ParamBundle.ClassText
import ParamBundle.Identifier
import ParamBundle.Json.Display

/-! A class in the making. Settings arrive in any order, fields are added one by one, and
the whole is rendered when all settings are there. A call that is refused leaves the
draft as it was. -/

namespace ParamBundle

structure Draft where
  className : Option String := none
  packageName : Option String := none
  typeParameters : List String := []
  style : Option Style := none
  fields : List FieldSpec := []
deriving DecidableEq

namespace Draft

def setClassName (draft : Draft) (name : Json) : Except Fault Draft :=
  match name with
  | .string text =>
    if isIdentifier text then .ok { draft with className := some text }
    else .error (.configuration (.invalidClassName text))
  | other => .error (.configuration (.invalidClassName other.display))

/-- The empty name stands for the default package. -/
def setPackageName (draft : Draft) (name : Json) : Except Fault Draft :=
  match name with
  | .string text =>
    if text.isEmpty || isDottedIdentifier text then .ok { draft with packageName := some text }
    else .error (.configuration (.invalidPackageName text))
  | _ => .error (.configuration .packageNameNotText)

/-- What a value offers item by item: a list its items, a text its characters, an object
its keys. -/
def itemsOf : Json → Except Fault (List Json)
  | .array items => .ok items
  | .string text => .ok (text.toList.map fun c => .string (String.singleton c))
  | .object members => .ok (members.map fun (key, _) => .string key)
  | other => .error (.misuse (.notIterable other.typeName))

def typeParameter? : Json → Option String
  | .string text => if Text.isBlank text then none else some text
  | _ => none

/-- All type parameters are replaced, or none. -/
def setTypeParameters (draft : Draft) (value : Json) : Except Fault Draft := do
  let items ← itemsOf value
  match items.mapM typeParameter? with
  | some typeParameters => return { draft with typeParameters }
  | none => .error (.configuration .blankTypeParameter)

def setStyle (draft : Draft) (style : Option Style) : Draft := { draft with style }

def addField (draft : Draft) (field : FieldSpec) : Draft :=
  { draft with fields := draft.fields ++ [field] }

def unsetSettings (draft : Draft) : List RequiredSetting :=
  (if draft.className.isNone then [.className] else []) ++
    (if draft.packageName.isNone then [.packageName] else []) ++
    (if draft.style.isNone then [.style] else [])

/-- The class the draft describes. Missing settings are reported before any field is
looked at, and the first field that is malformed before the rest. -/
def classModel (draft : Draft) : Except Fault ClassModel :=
  match draft.className, draft.packageName, draft.style with
  | some className, some packageName, some style => do
    let members ← draft.fields.mapM (Member.resolve style)
    return { packageName, className, typeParameters := draft.typeParameters, members }
  | _, _, _ => .error (.configuration (.unset draft.unsetSettings))

def render (draft : Draft) : Except Fault String := draft.classModel.map (·.text)

inductive Call where
  | setClassName (name : Json)
  | setPackageName (name : Json)
  | setTypeParameters (value : Json)
  | setStyle (style : Option Style)
  | addField (field : FieldSpec)
  | render

/-- What the call answers, if anything, and the draft after it. -/
def apply (draft : Draft) : Call → Except Fault (Option String × Draft)
  | .setClassName name => (draft.setClassName name).map (none, ·)
  | .setPackageName name => (draft.setPackageName name).map (none, ·)
  | .setTypeParameters value => (draft.setTypeParameters value).map (none, ·)
  | .setStyle style => .ok (none, draft.setStyle style)
  | .addField field => .ok (none, draft.addField field)
  | .render => draft.render.map (some ·, draft)

/-- A refused call changes nothing. -/
def step (draft : Draft) (call : Call) : Except Fault (Option String) × Draft :=
  match draft.apply call with
  | .ok (answer, next) => (.ok answer, next)
  | .error fault => (.error fault, draft)

/-- The answers of a sequence of calls, each with the draft it left. -/
def run (draft : Draft) : List Call → List (Except Fault (Option String) × Draft)
  | [] => []
  | call :: calls =>
    let done := draft.step call
    done :: done.2.run calls

end Draft
end ParamBundle
