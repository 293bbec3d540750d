import ParamBundle.Proofs.ClassSettings
import ParamBundle.Proofs.DescriptorSchema
import ParamBundle.Proofs.DraftHistory
import ParamBundle.Proofs.WrittenJson
import Mathlib.Data.List.Sort
import Mathlib.Data.String.Basic

/-! Descriptors written as JSON and read back. What is written says everything, so nothing
depends on what readers put in for a missing key; the keys of an object come in any order,
and a set of modifiers as any list of its members. A class comes out the same whether its
settings are made by hand or read from a document. -/

namespace ParamBundle.Proofs.DescriptorEncoding
open ClassSettings DescriptorSchema DraftHistory Traversal WrittenJson

/-! ### Written values -/

def Spells (members : Members) (value : Json) : Prop := ∃ written, value = .object written ∧ written.Perm members

def annotationMembers (use : AnnotationUse) : Members :=
  [("name", textOrNull use.qualifiedName), ("arguments", .string use.arguments)]

def WritesAnnotation (use : AnnotationUse) (value : Json) : Prop := Spells (annotationMembers use) value

/-- An entry with all of its keys. The modifiers are listed in any order, and one may be
listed more than once. -/
inductive WritesField : FieldSpec → Json → Prop where
  | entry {name typeText : String} {varArgs setterRequired : Bool} {modifiers : NameSet} {listed : List String}
      {annotations : List AnnotationUse} {uses : List Json} {documentation : Option String} {value : Json}
      (named : name ≠ "") (typed : typeText ≠ "") (modified : ∀ modifier, modifier ∈ listed ↔ modifier ∈ modifiers)
      (annotated : List.Forall₂ WritesAnnotation annotations uses)
      (spells : Spells
        [("name", .string name), ("type", .string typeText), ("var_args", .bool varArgs), ("setter", .bool setterRequired),
          ("modifiers", .array (listed.map .string)), ("annotations", .array uses), ("doc", textOrNull documentation)]
        value) :
      WritesField
        { parameter := { name, typeText, varArgs, modifiers, annotations, documentation }, setterRequired } value

def settingValue (style : Style) : Style.Setting → Json
  | .fieldPrefix => .string style.fieldPrefix
  | .fieldSuffix => .string style.fieldSuffix
  | .staticFieldPrefix => .string style.staticFieldPrefix
  | .staticFieldSuffix => .string style.staticFieldSuffix
  | .parameterPrefix => .string style.parameterPrefix
  | .parameterSuffix => .string style.parameterSuffix
  | .finalParameters => .bool style.finalParameters

def styleMembers (style : Style) : Members :=
  Style.Setting.all.map fun setting => (setting.key, settingValue style setting)

inductive Writes : Descriptor → Json → Prop where
  | document {packageName : String} {typeParameters : List String} {style : Style} {fields : List FieldSpec}
      {settings : Json} {entries : List Json} {value : Json}
      (styled : Spells (styleMembers style) settings) (written : List.Forall₂ WritesField fields entries)
      (spells : Spells
        [("package", .string packageName), ("type_parameters", .array (typeParameters.map .string)),
          ("style", settings), ("parameters", .array entries)] value) :
      Writes { packageName, typeParameters, style, fields } value

/-! ### Members in any order -/

theorem lookup_perm {written members : Members} (distinct : (members.map (·.1)).Nodup) (same : written.Perm members)
    (key : String) : written.lookup key = members.lookup key := by
  induction same with
  | nil => rfl
  | cons member _ ih =>
    obtain ⟨known, value⟩ := member
    rw [List.lookup_cons, List.lookup_cons, ih (List.nodup_cons.mp distinct).2]
  | swap first second rest =>
    obtain ⟨known, value⟩ := first
    obtain ⟨other, held⟩ := second
    have differ : known ≠ other := by
      intro equal
      simp [equal] at distinct
    simp only [List.lookup_cons]
    grind
  | trans first second ih again =>
    exact (ih ((second.map _).nodup_iff.mpr distinct)).trans (again distinct)

theorem Spells.lookup {members : Members} {value : Json} (spells : Spells members value)
    (distinct : (members.map (·.1)).Nodup) :
    ∃ written, value = .object written ∧ ∀ key, written.lookup key = members.lookup key := by
  obtain ⟨written, rfl, same⟩ := spells
  exact ⟨written, rfl, lookup_perm distinct same⟩

/-! ### Reading what was written -/

private theorem optionalString?_textOrNull (text : Option String) : Json.optionalString? (some (textOrNull text)) = some text := by
  cases text <;> rfl

private theorem strings?_texts (texts : List String) : (Json.array (texts.map .string)).strings? = some texts :=
  mapM_string?_eq_some_iff.mpr rfl

private theorem read_annotation {use : AnnotationUse} {value : Json} (name : Option String) (writes : WritesAnnotation use value) :
    AnnotationUse.ofJson name value = .ok use := by
  obtain ⟨members, rfl, found⟩ := writes.lookup (by simp [annotationMembers])
  have named : members.lookup "name" = some (textOrNull use.qualifiedName) := found "name"
  have argued : members.lookup "arguments" = some (.string use.arguments) := found "arguments"
  rw [AnnotationUse.ofJson, named, argued, optionalString?_textOrNull]
  rfl

theorem ofList_eq {listed : List String} {names : NameSet} (same : ∀ name, name ∈ listed ↔ name ∈ names) :
    NameSet.ofList listed = names := by
  have lists : (NameSet.ofList listed).toList = names.toList := by
    apply (NameSet.ofList listed).increasing.eq_of_mem_iff names.increasing
    exact fun name => NameSet.mem_ofList.trans (same name)
  cases names
  cases read : NameSet.ofList listed
  rw [read] at lists
  cases lists
  rfl

private theorem requiredText?_string {text : String} (visible : text ≠ "") :
    FieldSpec.requiredText? (some (.string text)) = some text := by
  simp [FieldSpec.requiredText?, Json.string?, visible]

private theorem read_field {spec : FieldSpec} {value : Json} (writes : WritesField spec value) :
    FieldSpec.ofJson value = .ok spec := by
  cases writes with
  | @entry name typeText varArgs setterRequired modifiers listed annotations uses documentation _ named typed modified
      annotated spells =>
    obtain ⟨members, rfl, found⟩ := spells.lookup (by simp)
    have nameFound : members.lookup "name" = some (.string name) := found "name"
    have typeFound : members.lookup "type" = some (.string typeText) := found "type"
    have variesFound : members.lookup "var_args" = some (.bool varArgs) := found "var_args"
    have setterFound : members.lookup "setter" = some (.bool setterRequired) := found "setter"
    have modifiersFound : members.lookup "modifiers" = some (.array (listed.map .string)) := found "modifiers"
    have annotationsFound : members.lookup "annotations" = some (.array uses) := found "annotations"
    have docFound : members.lookup "doc" = some (textOrNull documentation) := found "doc"
    have read : uses.mapM (AnnotationUse.ofJson (some name)) = .ok annotations :=
      mapM_ok_iff.mpr (annotated.flip.imp fun _ _ writes => read_annotation _ writes)
    simp only [FieldSpec.ofJson, nameFound, requiredText?_string named, FieldSpec.ofMembers, typeFound,
      requiredText?_string typed, FieldSpec.flag, variesFound, setterFound, modifiersFound, Option.getD_some,
      strings?_texts, annotationsFound, docFound, optionalString?_textOrNull, ofList_eq modified, read]
    rfl

section Settings
open Style

/-- A style is what its settings hold. -/
theorem style_ext {style other : Style} (same : ∀ setting, settingValue style setting = settingValue other setting) :
    style = other := by
  cases style
  cases other
  have fieldPrefix := same .fieldPrefix
  have fieldSuffix := same .fieldSuffix
  have staticFieldPrefix := same .staticFieldPrefix
  have staticFieldSuffix := same .staticFieldSuffix
  have parameterPrefix := same .parameterPrefix
  have parameterSuffix := same .parameterSuffix
  have finalParameters := same .finalParameters
  simp_all [settingValue]

/-- Writing one setting leaves the others as they are. -/
theorem setMember_written (style before : Style) (setting : Setting) :
    ∃ after, before.setMember (setting.key, settingValue style setting) = .ok after ∧
      settingValue after setting = settingValue style setting ∧
      ∀ other, other ≠ setting → settingValue after other = settingValue before other := by
  have known : Setting.ofKey? setting.key = some setting := ofKey?_eq_some_iff.mpr rfl
  rw [setMember, known]
  cases setting
  all_goals
    refine ⟨_, rfl, rfl, ?_⟩
    intro other differ
    cases other <;> first | rfl | exact absurd rfl differ

/-- The settings that were written hold what was written, in whatever order they came. -/
theorem foldlM_written {style : Style} {written : Members} (before : Style)
    (each : ∀ member ∈ written, ∃ setting : Setting, member = (setting.key, settingValue style setting)) :
    ∃ after, written.foldlM setMember before = .ok after ∧
      ∀ setting : Setting, settingValue after setting =
        if setting.key ∈ written.map (·.1) then settingValue style setting else settingValue before setting := by
  induction written generalizing before with
  | nil => exact ⟨before, rfl, fun setting => (if_neg List.not_mem_nil).symm⟩
  | cons member rest ih =>
    obtain ⟨first, others⟩ := List.forall_mem_cons.mp each
    obtain ⟨setting, rfl⟩ := first
    obtain ⟨middle, done, here, elsewhere⟩ := setMember_written style before setting
    obtain ⟨after, finished, values⟩ := ih middle others
    refine ⟨after, by rw [List.foldlM_cons, done]; exact finished, ?_⟩
    intro other
    rw [values other]
    by_cases same : other = setting
    · subst same
      simp [here]
    · have differ : other.key ≠ setting.key := by
        intro equal
        exact same (key_injective equal)
      rw [elsewhere other same, List.map_cons]
      simp only [List.mem_cons, differ, false_or]

private theorem read_style {style : Style} {value : Json} (spells : Spells (styleMembers style) value) :
    Style.ofJson value = .ok style := by
  obtain ⟨written, rfl, same⟩ := spells
  have each : ∀ member ∈ written, ∃ setting : Setting, member = (setting.key, settingValue style setting) := by
    intro member listed
    obtain ⟨setting, -, rfl⟩ := List.mem_map.mp (same.mem_iff.mp listed)
    exact ⟨setting, rfl⟩
  have known : unknownKeys written = [] := by
    rw [unknownKeys, List.filter_eq_nil_iff]
    intro key listed
    obtain ⟨member, present, rfl⟩ := List.mem_map.mp listed
    obtain ⟨setting, rfl⟩ := each member present
    simp [ofKey?_eq_some_iff.mpr rfl]
  obtain ⟨after, done, values⟩ := foldlM_written {} each
  have complete : after = style := by
    apply style_ext
    intro setting
    have listed : setting.key ∈ written.map (·.1) := by
      have member : (setting.key, settingValue style setting) ∈ styleMembers style := by
        refine List.mem_map.mpr ⟨setting, ?_, rfl⟩
        cases setting <;> decide
      exact List.mem_map.mpr ⟨_, same.mem_iff.mpr member, rfl⟩
    rw [values setting, if_pos listed]
  rw [Style.ofJson, known, ← complete]
  exact done

end Settings

private theorem read_descriptor {descriptor : Descriptor} {value : Json} (source : String) (writes : Writes descriptor value) :
    Descriptor.ofJson source value = .ok descriptor := by
  cases writes with
  | @document packageName typeParameters style fields settings entries _ styled written spells =>
    obtain ⟨members, rfl, found⟩ := spells.lookup (by simp)
    have packageFound : members.lookup "package" = some (.string packageName) := found "package"
    have typesFound : members.lookup "type_parameters" = some (.array (typeParameters.map .string)) :=
      found "type_parameters"
    have styleFound : members.lookup "style" = some settings := found "style"
    have parametersFound : members.lookup "parameters" = some (.array entries) := found "parameters"
    have read : entries.mapM FieldSpec.ofJson = .ok fields :=
      mapM_ok_iff.mpr (written.flip.imp fun _ _ writes => read_field writes)
    simp only [Descriptor.ofJson, Descriptor.ofMembers, packageFound, typesFound, styleFound, parametersFound,
      Json.optionalString?, Option.getD_some, strings?_texts, read_style styled, read]
    rfl

/-! ### Everything can be written -/

def Legible (spec : FieldSpec) : Prop :=
  ∃ name typeText, spec.parameter.name = some name ∧ name ≠ "" ∧ spec.parameter.typeText = some typeText ∧ typeText ≠ ""

/-- One way to write each of them, with the keys in the documented order. -/
def annotationValue (use : AnnotationUse) : Json := .object (annotationMembers use)

def fieldValue (spec : FieldSpec) : Json :=
  .object [("name", textOrNull spec.parameter.name), ("type", textOrNull spec.parameter.typeText),
    ("var_args", .bool spec.parameter.varArgs), ("setter", .bool spec.setterRequired),
    ("modifiers", .array (spec.parameter.modifiers.toList.map .string)),
    ("annotations", .array (spec.parameter.annotations.map annotationValue)),
    ("doc", textOrNull spec.parameter.documentation)]

def descriptorValue (descriptor : Descriptor) : Json :=
  .object [("package", .string descriptor.packageName),
    ("type_parameters", .array (descriptor.typeParameters.map .string)),
    ("style", .object (styleMembers descriptor.style)), ("parameters", .array (descriptor.fields.map fieldValue))]

private theorem forall₂_map_self {α β : Type} {relation : α → β → Prop} {items : List α} {f : α → β}
    (each : ∀ item ∈ items, relation item (f item)) : List.Forall₂ relation items (items.map f) :=
  List.forall₂_map_right_iff.mpr (List.forall₂_same.mpr each)

theorem field_written {spec : FieldSpec} (legible : Legible spec) : WritesField spec (fieldValue spec) := by
  obtain ⟨⟨name, typeText, varArgs, modifiers, annotations, documentation⟩, setterRequired⟩ := spec
  obtain ⟨name, typeText, rfl, named, rfl, typed⟩ := legible
  have annotated : List.Forall₂ WritesAnnotation annotations (annotations.map annotationValue) :=
    forall₂_map_self fun use _ => ⟨_, rfl, .refl _⟩
  exact .entry named typed (fun _ => Iff.rfl) annotated ⟨_, rfl, .refl _⟩

theorem descriptor_written {descriptor : Descriptor} (legible : ∀ spec ∈ descriptor.fields, Legible spec) :
    Writes descriptor (descriptorValue descriptor) :=
  .document ⟨_, rfl, .refl _⟩ (forall₂_map_self fun spec member => field_written (legible spec member)) ⟨_, rfl, .refl _⟩

private theorem plain_textOrNull (text : Option String) : Plain (textOrNull text) := by
  cases text with
  | none => exact .null
  | some text => exact .string text

private theorem plain_texts (texts : List String) : Plain (.array (texts.map .string)) :=
  .array (List.forall_mem_map.mpr fun text _ => .string text)

theorem Spells.plain {members : Members} {value : Json} (spells : Spells members value)
    (distinct : (members.map (·.1)).Nodup) (each : ∀ member ∈ members, Plain member.2) : Plain value := by
  obtain ⟨written, rfl, same⟩ := spells
  apply Plain.object
  · exact (same.map _).nodup_iff.mpr distinct
  · exact fun member listed => each member (same.mem_iff.mp listed)

private theorem plain_list {α : Type} {written : α → Json → Prop} {items : List α} {values : List Json}
    (each : ∀ item value, written item value → Plain value) (pairs : List.Forall₂ written items values) :
    Plain (.array values) := by
  apply Plain.array
  intro value listed
  obtain ⟨item, -, writes⟩ := partner_of_mem pairs listed
  exact each item value writes

theorem WritesAnnotation.plain {use : AnnotationUse} {value : Json} (writes : WritesAnnotation use value) : Plain value := by
  apply Spells.plain writes
  · simp [annotationMembers]
  · simp [annotationMembers, plain_textOrNull, Plain.string]

theorem WritesField.plain {spec : FieldSpec} {value : Json} (writes : WritesField spec value) : Plain value := by
  cases writes with
  | entry _ _ _ annotated spells =>
    have uses := plain_list (fun _ _ writes => WritesAnnotation.plain writes) annotated
    apply spells.plain
    · simp
    · simp [plain_textOrNull, plain_texts, Plain.string, Plain.bool, uses]

theorem Writes.plain {descriptor : Descriptor} {value : Json} (writes : Writes descriptor value) : Plain value := by
  cases writes with
  | @document _ _ style _ settings entries _ styled written spells =>
    have settings : Plain settings := by
      apply styled.plain
      · simp [styleMembers, Style.Setting.all, Style.Setting.key]
      · simp [styleMembers, Style.Setting.all, settingValue, Plain.string, Plain.bool]
    have entries := plain_list (fun _ _ writes => WritesField.plain writes) written
    apply spells.plain
    · simp
    · simp [Plain.string, plain_texts, settings, entries]

/-! ### The same class by hand -/

/-- Makes one call after the other until one is refused, and answers what the last one
answered, with the draft it left. -/
def drive (draft : Draft) (calls : List Draft.Call) : Except Fault (Option String × Draft) :=
  calls.foldlM (fun done call => done.2.apply call) (none, draft)

def callsFor (descriptor : Descriptor) (className packageName : Json) : List Draft.Call :=
  [.setStyle (some descriptor.style), .setClassName className, .setPackageName packageName,
    .setTypeParameters (.array (descriptor.typeParameters.map .string))] ++
    descriptor.fields.map .addField ++ [.render]

variable {draft : Draft} {descriptor : Descriptor}

/-- A call that only makes a new draft hands it on to the next call. -/
theorem drive_cons {call : Draft.Call} {made : Except Fault Draft} (applied : draft.apply call = made.map (none, ·))
    (calls : List Draft.Call) : drive draft (call :: calls) = made >>= (drive · calls) := by
  rw [drive, List.foldlM_cons]
  change draft.apply call >>= _ = _
  rw [applied]
  cases made <;> rfl

private theorem drive_fields (fields : List FieldSpec) (calls : List Draft.Call) :
    drive draft (fields.map .addField ++ calls) = drive (fields.foldl Draft.addField draft) calls := by
  induction fields generalizing draft with
  | nil => rfl
  | cons field rest ih =>
    have applied : draft.apply (.addField field) = (Except.ok (draft.addField field)).map (none, ·) := rfl
    rw [List.map_cons, List.cons_append, drive_cons applied]
    exact ih

private theorem drive_settings (descriptor : Descriptor) (className packageName : Json) (initial : Option Style) :
    drive (fresh initial) (callsFor descriptor className packageName) =
      descriptor.draft className packageName >>= (drive · [.render]) := by
  have styled : (fresh initial).apply (.setStyle (some descriptor.style)) =
      (Except.ok { style := some descriptor.style }).map (none, ·) := rfl
  simp only [callsFor, List.cons_append, List.nil_append, Descriptor.draft, bind_assoc, pure_bind]
  rw [drive_cons styled]
  change drive { style := some descriptor.style } _ = _
  rw [drive_cons rfl]
  refine bind_congr fun named => ?_
  rw [drive_cons rfl]
  refine bind_congr fun packaged => ?_
  rw [drive_cons rfl]
  exact bind_congr fun generic => drive_fields _ _

theorem drive_callsFor (descriptor : Descriptor) (className packageName : Json) (initial : Option Style) :
    (drive (fresh initial) (callsFor descriptor className packageName)).map (·.1) =
      (descriptor.render className packageName).map some := by
  rw [drive_settings, Descriptor.render, Descriptor.classModel]
  cases descriptor.draft className packageName with
  | error fault => rfl
  | ok draft =>
    change (drive draft [.render]).map (·.1) = (draft.classModel.map (·.text)).map some
    cases settled : draft.classModel <;> simp [drive, Draft.apply, Draft.render, settled, Except.map]

/-- Every descriptor whose fields have names and types can be written, and whatever is
written for it stands in some text. Every text in which it stands is read as exactly that
descriptor, and its class is the one that the builder makes when it is driven by hand with
the same settings, or both are refused alike. -/
theorem written_descriptor_is_read_back (descriptor : Descriptor) (legible : ∀ spec ∈ descriptor.fields, Legible spec) :
    (∃ value, Writes descriptor value) ∧
    (∀ value, Writes descriptor value → (∃ text, Json.read text = .ok value) ∧
      ∀ text source, Json.read text = .ok value → Descriptor.parse source text = .ok descriptor) ∧
    ∀ className packageName initial, (descriptor.render className packageName).map some =
      (drive (fresh initial) (callsFor descriptor className packageName)).map (·.1) := by
  refine ⟨⟨_, descriptor_written legible⟩, ?_, ?_⟩
  · intro value writes
    refine ⟨⟨_, read_write writes.plain⟩, ?_⟩
    intro text source read
    rw [Descriptor.parse, read]
    exact read_descriptor source writes
  · intro className packageName initial
    exact (drive_callsFor descriptor className packageName initial).symm

private theorem spells_reverse (members : Members) : Spells members (.object members.reverse) :=
  ⟨members.reverse, rfl, List.reverse_perm members⟩

/-- All keys in the opposite order, a modifier listed twice, an annotation without a name and
texts that are empty. -/
theorem reversed_document_is_read_back :
    let spec : FieldSpec :=
      { parameter :=
          { name := some "x", typeText := some "int[]", varArgs := true, modifiers := .ofList ["final", "static"],
            annotations := [{ qualifiedName := none, arguments := "(1)" }], documentation := some "" },
        setterRequired := true }
    let descriptor : Descriptor := { typeParameters := ["T"], style := { fieldPrefix := "m_" }, fields := [spec] }
    let entry : Json := .object
      [("doc", .string ""), ("annotations", .array [.object [("arguments", .string "(1)"), ("name", .null)]]),
        ("modifiers", .array [.string "static", .string "final", .string "static"]), ("setter", .bool true),
        ("var_args", .bool true), ("type", .string "int[]"), ("name", .string "x")]
    let value : Json := .object
      [("parameters", .array [entry]), ("style", .object (styleMembers descriptor.style).reverse),
        ("type_parameters", .array [.string "T"]), ("package", .string "")]
    (∀ spec ∈ descriptor.fields, Legible spec) ∧ Writes descriptor value ∧
      (∃ text, Json.read text = .ok value ∧ Descriptor.parse "<string>" text = .ok descriptor) ∧
      ∀ className packageName initial, (descriptor.render className packageName).map some =
        (drive (fresh initial) (callsFor descriptor className packageName)).map (·.1) := by
  intro spec descriptor entry value
  have legible : ∀ spec ∈ descriptor.fields, Legible spec := by
    intro spec member
    obtain rfl := List.mem_singleton.mp member
    exact ⟨"x", "int[]", rfl, by decide, rfl, by decide⟩
  have modified : ∀ modifier, modifier ∈ ["static", "final", "static"] ↔ modifier ∈ spec.parameter.modifiers := by
    intro modifier
    rw [NameSet.mem_ofList]
    simp only [List.mem_cons, List.not_mem_nil, or_false]
    tauto
  have annotated : WritesAnnotation { qualifiedName := none, arguments := "(1)" }
      (.object [("arguments", .string "(1)"), ("name", .null)]) := spells_reverse _
  have field : WritesField spec entry :=
    .entry (by decide) (by decide) modified (.cons annotated .nil) (spells_reverse _)
  have writes : Writes descriptor value :=
    .document (spells_reverse _) (.cons field .nil) (spells_reverse _)
  obtain ⟨-, back, byHand⟩ := written_descriptor_is_read_back descriptor legible
  obtain ⟨⟨text, read⟩, parsed⟩ := back value writes
  exact ⟨legible, writes, ⟨text, read, parsed text _ read⟩, byHand⟩

end ParamBundle.Proofs.DescriptorEncoding
