import ParamBundle.Descriptor.Reader
import ParamBundle.Proofs.Traversal
import ParamBundle.Proofs.WrittenJson
import Mathlib.Data.String.Basic

/-! The documents that are descriptors. The rules below say of every value what may stand
where, without a word about the order in which readers look at it; each reader accepts
exactly what its rule allows, and what it refuses it blames on the document. -/

namespace ParamBundle.Proofs.DescriptorSchema
open Traversal
open WrittenJson (Plain plain_array_iff plain_object_iff read_write write)

variable {α β : Type}

/-- A reader keeps to a rule: it accepts what the rule allows and refuses the rest, with a
fault of the configuration or of one of its parameters. -/
structure Decides (answer : Except Fault α) (allowed : Prop) : Prop where
  accepts : allowed → ∃ value, answer = .ok value
  refuses : ¬ allowed → (∃ cause, answer = .error (.configuration cause)) ∨
    ∃ name cause, answer = .error (.malformed name cause)

namespace Decides
variable {answer first : Except Fault α} {next : α → Except Fault β} {allowed other : Prop}

theorem succeeds_iff (decides : Decides answer allowed) : (∃ value, answer = .ok value) ↔ allowed := by
  refine ⟨fun ⟨value, accepted⟩ => Classical.byContradiction fun barred => ?_, decides.accepts⟩
  obtain ⟨_, refused⟩ | ⟨_, _, refused⟩ := decides.refuses barred
  all_goals
    rw [accepted] at refused
    cases refused

theorem ok (value : α) (holds : allowed) : Decides (.ok value : Except Fault α) allowed :=
  ⟨fun _ => ⟨value, rfl⟩, fun barred => absurd holds barred⟩

theorem configuration {cause : ConfigurationFault} (barred : ¬ allowed) :
    Decides (.error (.configuration cause) : Except Fault α) allowed :=
  ⟨fun holds => absurd holds barred, fun _ => Or.inl ⟨cause, rfl⟩⟩

theorem malformed {name : Option String} {cause : ParameterFault} (barred : ¬ allowed) :
    Decides (.error (.malformed name cause) : Except Fault α) allowed :=
  ⟨fun holds => absurd holds barred, fun _ => Or.inr ⟨name, cause, rfl⟩⟩

theorem congr (decides : Decides answer allowed) (same : allowed ↔ other) : Decides answer other :=
  ⟨fun holds => decides.accepts (same.mpr holds), fun barred => decides.refuses (mt same.mp barred)⟩

theorem bind (decides : Decides first allowed) (rest : ∀ value, first = .ok value → Decides (next value) other) :
    Decides (first >>= next) (allowed ∧ other) := by
  cases answered : first with
  | ok value =>
    have holds : allowed := decides.succeeds_iff.mp ⟨value, answered⟩
    exact (rest value answered).congr (by simp [holds])
  | error fault =>
    have barred : ¬ allowed := by
      rw [← decides.succeeds_iff, answered]
      simp
    obtain ⟨cause, refused⟩ | ⟨name, cause, refused⟩ := decides.refuses barred
    · obtain rfl := Except.error.inj (answered.symm.trans refused)
      exact configuration fun both => barred both.1
    · obtain rfl := Except.error.inj (answered.symm.trans refused)
      exact malformed fun both => barred both.1

theorem mapM {f : α → Except Fault β} {rule : α → Prop} (each : ∀ item, Decides (f item) (rule item))
    (items : List α) : Decides (items.mapM f) (∀ item ∈ items, rule item) := by
  induction items with
  | nil => exact ok [] (by simp)
  | cons item items ih =>
    rw [List.mapM_cons]
    refine ((each item).bind fun answer _ => ih.bind fun answers _ => ok (answer :: answers) trivial).congr ?_
    simp

theorem foldlM {f : β → α → Except Fault β} {rule : α → Prop} (each : ∀ state item, Decides (f state item) (rule item))
    (items : List α) (start : β) : Decides (items.foldlM f start) (∀ item ∈ items, rule item) := by
  induction items generalizing start with
  | nil => exact ok start (by simp)
  | cons item items ih =>
    rw [List.foldlM_cons]
    exact ((each start item).bind fun state _ => ih state).congr (by simp)

end Decides

/-! The rules, from single values to the whole document. -/

abbrev Members := List (String × Json)

def IsText (value : Json) : Prop := ∃ text, value = .string text

def IsVisibleText (value : Json) : Prop := ∃ text, value = .string text ∧ text ≠ ""

def IsFlag (value : Json) : Prop := ∃ flag, value = .bool flag

def OrNull (rule : Json → Prop) (value : Json) : Prop := value = .null ∨ rule value

def textOrNull (text : Option String) : Json := (text.map .string).getD .null

def IsListOf (rule : Json → Prop) (value : Json) : Prop :=
  ∃ items, value = .array items ∧ ∀ item ∈ items, rule item

def IsObject (rule : Members → Prop) (value : Json) : Prop :=
  ∃ members, value = .object members ∧ rule members

/-- What stands under the key, if anything does, follows the rule. -/
def Allows (rule : Json → Prop) (members : Members) (key : String) : Prop :=
  ∀ value, members.lookup key = some value → rule value

def Requires (rule : Json → Prop) (members : Members) (key : String) : Prop :=
  ∃ value, members.lookup key = some value ∧ rule value

def IsAnnotationUse : Json → Prop := IsObject fun members =>
  Allows (OrNull IsText) members "name" ∧ Allows (OrNull IsText) members "arguments"

def IsParameter : Json → Prop := IsObject fun members =>
  Requires IsVisibleText members "name" ∧ Requires IsVisibleText members "type" ∧
  Allows IsFlag members "var_args" ∧ Allows IsFlag members "setter" ∧
  Allows (IsListOf IsText) members "modifiers" ∧ Allows (OrNull IsText) members "doc" ∧
  Allows (IsListOf IsAnnotationUse) members "annotations"

def textSettings : List String :=
  ["field_name_prefix", "field_name_suffix", "static_field_name_prefix", "static_field_name_suffix",
    "parameter_name_prefix", "parameter_name_suffix"]

def IsSetting (key : String) (value : Json) : Prop :=
  key ∈ textSettings ∧ IsText value ∨ key = "generate_final_parameters" ∧ IsFlag value

def IsStyle : Json → Prop := IsObject fun members => ∀ member ∈ members, IsSetting member.1 member.2

def IsDescriptor : Json → Prop := IsObject fun members =>
  Allows (OrNull IsText) members "package" ∧ Allows (IsListOf IsText) members "type_parameters" ∧
  Allows (OrNull IsStyle) members "style" ∧ Allows (IsListOf IsParameter) members "parameters"

section Values
variable {members : Members} {key : String}

theorem isObject_iff {rule : Members → Prop} : IsObject rule (.object members) ↔ rule members := by
  simp [IsObject]

theorem optionalString?_isSome_iff :
    (∃ text, Json.optionalString? (members.lookup key) = some text) ↔ Allows (OrNull IsText) members key := by
  cases found : members.lookup key with
  | none => simp [Json.optionalString?, Allows, found]
  | some value => cases value <;> simp [Json.optionalString?, Allows, OrNull, IsText, found]

theorem string?_isSome_iff {value : Json} : (∃ text, value.string? = some text) ↔ IsText value := by
  cases value <;> simp [Json.string?, IsText]

theorem strings?_isSome_iff {value : Json} : (∃ texts, value.strings? = some texts) ↔ IsListOf IsText value := by
  cases value with
  | array items => simp [Json.strings?, IsListOf, mapM_isSome_iff, string?_isSome_iff]
  | _ => simp [Json.strings?, IsListOf]

/-- A list that is left out is read as the empty one, which follows every rule. -/
theorem listOf_getD_iff {rule : Json → Prop} :
    IsListOf rule ((members.lookup key).getD (.array [])) ↔ Allows (IsListOf rule) members key := by
  cases found : members.lookup key with
  | none => simp [Allows, IsListOf, found]
  | some value => simp [Allows, found]

theorem requiredText?_isSome_iff :
    (∃ text, FieldSpec.requiredText? (members.lookup key) = some text) ↔ Requires IsVisibleText members key := by
  cases found : members.lookup key with
  | none => simp [FieldSpec.requiredText?, Requires, found]
  | some value => cases value <;> simp [FieldSpec.requiredText?, Requires, IsVisibleText, found, Json.string?]

private theorem flag_decides (name : String) : Decides (FieldSpec.flag name key members) (Allows IsFlag members key) := by
  rw [FieldSpec.flag]
  cases found : members.lookup key with
  | none => exact .ok false (by simp [Allows, found])
  | some value =>
    cases value with
    | bool flag => exact .ok flag (by simp [Allows, IsFlag, found])
    | _ => exact .malformed (by simp [Allows, IsFlag, found])

end Values

private theorem annotation_decides (name : Option String) (value : Json) :
    Decides (AnnotationUse.ofJson name value) (IsAnnotationUse value) := by
  cases value with
  | object members =>
    simp only [AnnotationUse.ofJson, IsAnnotationUse, isObject_iff, ← optionalString?_isSome_iff]
    cases Json.optionalString? (members.lookup "name") with
    | none => exact .malformed (by simp)
    | some qualifiedName =>
      cases Json.optionalString? (members.lookup "arguments") with
      | none => exact .malformed (by simp)
      | some arguments => exact .ok _ (by simp)
  | _ => exact .malformed (by simp [IsAnnotationUse, IsObject])

section Settings
open Style

theorem ofKey?_eq_some_iff {key : String} {setting : Setting} :
    Setting.ofKey? key = some setting ↔ setting.key = key := by
  constructor
  · intro found
    simpa using List.find?_some found
  · rintro rfl
    cases setting <;> rfl

theorem key_injective : Function.Injective Setting.key := by
  intro setting other same
  exact Option.some.inj ((ofKey?_eq_some_iff.mpr same).symm.trans (ofKey?_eq_some_iff.mpr rfl))

private theorem set_decides (style : Style) (setting : Setting) (value : Json) :
    Decides (style.set setting value) (IsSetting setting.key value) := by
  cases setting with
  | finalParameters =>
    cases value with
    | bool flag => exact .ok _ (by simp [IsSetting, Setting.key, IsFlag])
    | _ => exact .configuration (by simp [IsSetting, Setting.key, IsFlag, textSettings])
  | _ =>
    cases value with
    | string text => exact .ok _ (by simp [IsSetting, Setting.key, IsText, textSettings])
    | _ => exact .configuration (by simp [IsSetting, Setting.key, IsText])

/-- The keys that readers know are the ones the rule lists. -/
theorem isSetting_known {key : String} {value : Json} (allowed : IsSetting key value) :
    ∃ setting, Setting.ofKey? key = some setting := by
  obtain ⟨listed, -⟩ | ⟨rfl, -⟩ := allowed
  · simp only [textSettings, List.mem_cons, List.not_mem_nil, or_false] at listed
    rcases listed with rfl | rfl | rfl | rfl | rfl | rfl
    all_goals exact ⟨_, rfl⟩
  · exact ⟨_, rfl⟩

private theorem setMember_decides (style : Style) (member : String × Json) :
    Decides (style.setMember member) (IsSetting member.1 member.2) := by
  rw [setMember]
  cases known : Setting.ofKey? member.1 with
  | none =>
    refine .configuration fun allowed => ?_
    obtain ⟨setting, found⟩ := isSetting_known allowed
    rw [known] at found
    cases found
  | some setting => exact ofKey?_eq_some_iff.mp known ▸ set_decides style setting member.2

theorem style_decides (value : Json) : Decides (Style.ofJson value) (OrNull IsStyle value) := by
  cases value with
  | null => exact .ok _ (Or.inl rfl)
  | object members =>
    rw [Style.ofJson]
    cases unknown : unknownKeys members with
    | nil =>
      exact (Decides.foldlM setMember_decides members {}).congr (by simp [OrNull, IsStyle, IsObject])
    | cons key keys =>
      refine .configuration ?_
      simp only [OrNull, IsStyle, isObject_iff, reduceCtorEq, false_or]
      intro allowed
      have listed : key ∈ unknownKeys members := by simp [unknown]
      simp only [unknownKeys, List.mem_filter, List.mem_map, Option.isNone_iff_eq_none] at listed
      obtain ⟨⟨member, present, rfl⟩, foreign⟩ := listed
      obtain ⟨setting, known⟩ := isSetting_known (allowed member present)
      rw [foreign] at known
      cases known
  | _ => exact .configuration (by simp [OrNull, IsStyle, IsObject])

end Settings

/-- The rule in terms of what the readers of single keys answer. -/
theorem isParameter_iff {members : Members} : IsParameter (.object members) ↔
    (∃ text, FieldSpec.requiredText? (members.lookup "name") = some text) ∧
    (∃ text, FieldSpec.requiredText? (members.lookup "type") = some text) ∧
    Allows IsFlag members "var_args" ∧ Allows IsFlag members "setter" ∧
    (∃ texts, ((members.lookup "modifiers").getD (.array [])).strings? = some texts) ∧
    (∃ text, Json.optionalString? (members.lookup "doc") = some text) ∧
    IsListOf IsAnnotationUse ((members.lookup "annotations").getD (.array [])) := by
  simp only [IsParameter, isObject_iff, requiredText?_isSome_iff, strings?_isSome_iff, listOf_getD_iff,
    optionalString?_isSome_iff]

theorem parameter_decides (value : Json) : Decides (FieldSpec.ofJson value) (IsParameter value) := by
  cases value with
  | object members =>
    rw [isParameter_iff, FieldSpec.ofJson]
    cases FieldSpec.requiredText? (members.lookup "name") with
    | none => exact .malformed (by simp)
    | some name =>
      simp only [FieldSpec.ofMembers]
      cases FieldSpec.requiredText? (members.lookup "type") with
      | none => exact .malformed (by simp)
      | some typeText =>
        refine (Decides.bind (flag_decides name) fun varArgs _ => Decides.bind (flag_decides name) fun setter _ =>
          (?_ : Decides _ ((∃ texts, ((members.lookup "modifiers").getD (.array [])).strings? = some texts) ∧
            (∃ text, Json.optionalString? (members.lookup "doc") = some text) ∧
            IsListOf IsAnnotationUse ((members.lookup "annotations").getD (.array []))))).congr (by simp)
        cases ((members.lookup "modifiers").getD (.array [])).strings? with
        | none => exact .malformed (by simp)
        | some modifiers =>
          cases (members.lookup "annotations").getD (.array []) with
          | array entries =>
            cases Json.optionalString? (members.lookup "doc") with
            | none => exact .malformed (by simp)
            | some documentation =>
              refine ((Decides.mapM (annotation_decides name) entries).bind fun uses _ => .ok _ trivial).congr ?_
              simp [IsListOf]
          | _ => exact .malformed (by simp [IsListOf])
  | _ => exact .malformed (by simp [IsParameter, IsObject])

theorem isDescriptor_iff {members : Members} : IsDescriptor (.object members) ↔
    (∃ text, Json.optionalString? (members.lookup "package") = some text) ∧
    (∃ texts, ((members.lookup "type_parameters").getD (.array [])).strings? = some texts) ∧
    OrNull IsStyle ((members.lookup "style").getD .null) ∧
    IsListOf IsParameter ((members.lookup "parameters").getD (.array [])) := by
  have style : OrNull IsStyle ((members.lookup "style").getD .null) ↔
      Allows (OrNull IsStyle) members "style" := by
    cases found : members.lookup "style" with
    | none => simp [Allows, OrNull, found]
    | some value => simp [Allows, found]
  simp only [IsDescriptor, isObject_iff, strings?_isSome_iff, listOf_getD_iff, optionalString?_isSome_iff, style]

theorem descriptor_decides (source : String) (value : Json) :
    Decides (Descriptor.ofJson source value) (IsDescriptor value) := by
  cases value with
  | object members =>
    simp only [isDescriptor_iff, Descriptor.ofJson, Descriptor.ofMembers]
    cases Json.optionalString? (members.lookup "package") with
    | none => exact .configuration (by simp)
    | some packageName =>
      cases ((members.lookup "type_parameters").getD (.array [])).strings? with
      | none => exact .configuration (by simp)
      | some typeParameters =>
        cases (members.lookup "parameters").getD (.array []) with
        | array entries =>
          refine ((style_decides _).bind fun style _ =>
            (Decides.mapM parameter_decides entries).bind fun fields _ => .ok _ trivial).congr ?_
          simp [IsListOf]
        | _ => exact .configuration (by simp [IsListOf])
  | _ => exact .configuration (by simp [IsDescriptor, IsObject])

/-- A text that is JSON is read as a descriptor exactly when its value follows the rules;
any other value is blamed on the configuration or on one parameter. -/
theorem parse_succeeds_iff_isDescriptor {source text : String} {value : Json} (read : Json.read text = .ok value) :
    ((∃ descriptor, Descriptor.parse source text = .ok descriptor) ↔ IsDescriptor value) ∧
    (¬ IsDescriptor value →
      (∃ cause, Descriptor.parse source text = .error (.configuration cause)) ∨
      ∃ name cause, Descriptor.parse source text = .error (.malformed name cause)) := by
  have parsed : Descriptor.parse source text = Descriptor.ofJson source value := by rw [Descriptor.parse, read]
  rw [parsed]
  exact ⟨(descriptor_decides source value).succeeds_iff, (descriptor_decides source value).refuses⟩

theorem one_field_document_is_read :
    let parameter : Json := .object [("name", .string "x"), ("type", .string "int"), ("doc", .null)]
    let value : Json := .object [("parameters", .array [parameter])]
    ∃ text, Json.read text = .ok value ∧ IsDescriptor value ∧
      ∃ descriptor, Descriptor.parse "<string>" text = .ok descriptor := by
  intro parameter value
  have plain : Plain value := by
    simp [value, parameter, plain_object_iff, plain_array_iff, Plain.string, Plain.null]
  have read : Json.read (String.ofList (write value)) = .ok value := read_write plain
  have listed : IsParameter parameter := by
    simp [parameter, IsParameter, isObject_iff, Requires, Allows, OrNull, IsVisibleText, List.lookup_cons, List.lookup_nil]
  have allowed : IsDescriptor value := by
    simp [value, IsDescriptor, isObject_iff, Allows, IsListOf, listed, List.lookup_cons, List.lookup_nil]
  exact ⟨_, read, allowed, (parse_succeeds_iff_isDescriptor read).1.mpr allowed⟩

end ParamBundle.Proofs.DescriptorSchema
