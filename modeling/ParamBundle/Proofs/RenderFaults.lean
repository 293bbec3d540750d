import ParamBundle.Draft
import ParamBundle.Proofs.TypeTexts

/-! When a draft can be rendered, and what is reported when it cannot. Settings that were
never made come first, whatever the fields are; then the first field that cannot become a
member is blamed, and the fields after it have no say. -/

namespace ParamBundle.Proofs.RenderFaults
open Traversal TypeTexts

variable {style : Style} {parameter : Parameter}

def Nameless (parameter : Parameter) : Prop := parameter.name = none ∨ parameter.name = some ""

def Baseless (style : Style) (parameter : Parameter) : Prop :=
  ∃ name, parameter.name = some name ∧ style.baseName name = ""

/-- A variable-arity parameter whose type has no dimension to vary. -/
def Undimensioned (parameter : Parameter) : Prop :=
  parameter.varArgs = true ∧ ¬ ∃ component, ComponentOf (parameter.typeText.getD "") component

def IllFormed (style : Style) (parameter : Parameter) : Prop :=
  Nameless parameter ∨ Baseless style parameter ∨ Untyped parameter ∨ Undimensioned parameter

/-- The one defect a parameter is blamed for: the name is looked at before the type, and
each of them is looked at for being there before it is taken apart. -/
inductive Blamed (style : Style) (parameter : Parameter) : ParameterFault → Prop where
  | noName (nameless : Nameless parameter) : Blamed style parameter .noName
  | emptyBaseName (named : ¬ Nameless parameter) (baseless : Baseless style parameter) :
      Blamed style parameter .emptyBaseName
  | noType (named : ¬ Nameless parameter) (based : ¬ Baseless style parameter)
      (untyped : Untyped parameter) : Blamed style parameter .noType
  | notArray (named : ¬ Nameless parameter) (based : ¬ Baseless style parameter)
      (typed : ¬ Untyped parameter) (undimensioned : Undimensioned parameter) :
      Blamed style parameter (.notArray (parameter.typeText.getD ""))

theorem Blamed.illFormed {cause : ParameterFault} (blamed : Blamed style parameter cause) :
    IllFormed style parameter := by
  cases blamed with
  | noName nameless => exact Or.inl nameless
  | emptyBaseName _ baseless => exact Or.inr (Or.inl baseless)
  | noType _ _ untyped => exact Or.inr (Or.inr (Or.inl untyped))
  | notArray _ _ _ undimensioned => exact Or.inr (Or.inr (Or.inr undimensioned))

theorem IllFormed.blamed (illFormed : IllFormed style parameter) :
    ∃ cause, Blamed style parameter cause := by
  by_cases nameless : Nameless parameter
  · exact ⟨_, .noName nameless⟩
  by_cases baseless : Baseless style parameter
  · exact ⟨_, .emptyBaseName nameless baseless⟩
  by_cases untyped : Untyped parameter
  · exact ⟨_, .noType nameless baseless untyped⟩
  have undimensioned : Undimensioned parameter := by
    simpa [IllFormed, nameless, baseless, untyped] using illFormed
  exact ⟨_, .notArray nameless baseless untyped undimensioned⟩

theorem nameless_iff : Nameless parameter ↔ (parameter.name.getD "").isEmpty = true := by
  cases given : parameter.name <;> simp [Nameless, given]

theorem baseless_iff (named : ¬ Nameless parameter) :
    Baseless style parameter ↔ (style.baseName (parameter.name.getD "")).isEmpty = true := by
  cases given : parameter.name with
  | none => exact absurd (Or.inl given) named
  | some name => simp [Baseless, given]

theorem baseName_error_iff {fault : Fault} :
    parameter.baseName style = .error fault ↔
      Nameless parameter ∧ fault = .malformed parameter.name .noName ∨
      ¬ Nameless parameter ∧ Baseless style parameter ∧
        fault = .malformed parameter.name .emptyBaseName := by
  by_cases nameless : Nameless parameter
  · simp [Parameter.baseName, nameless, nameless_iff.mp nameless, @eq_comm _ fault]
  · rw [baseless_iff nameless]
    rw [nameless_iff] at nameless
    by_cases baseless : (style.baseName (parameter.name.getD "")).isEmpty = true
    · simp [Parameter.baseName, nameless_iff, nameless, baseless, @eq_comm _ fault]
    · simp [Parameter.baseName, nameless_iff, nameless, baseless]

theorem baseName_ok_iff {base : String} :
    parameter.baseName style = .ok base ↔
      ¬ Nameless parameter ∧ ¬ Baseless style parameter ∧
        style.baseName (parameter.name.getD "") = base := by
  by_cases nameless : Nameless parameter
  · simp [Parameter.baseName, nameless, nameless_iff.mp nameless]
  · rw [baseless_iff nameless]
    rw [nameless_iff] at nameless
    by_cases baseless : (style.baseName (parameter.name.getD "")).isEmpty = true
    · simp [Parameter.baseName, nameless_iff, nameless, baseless]
    · simp [Parameter.baseName, nameless_iff, nameless, baseless]

variable {spec : FieldSpec}

theorem resolve_error_iff {fault : Fault} :
    Member.resolve style spec = .error fault ↔
      ∃ cause, Blamed style spec.parameter cause ∧ fault = .malformed spec.parameter.name cause := by
  simp only [Member.resolve, bind_error_iff]
  constructor
  · rintro (unnamed | ⟨base, named, unwritten | ⟨declared, accepted, refused | ⟨_, _, impossible⟩⟩⟩)
    · obtain ⟨nameless, rfl⟩ | ⟨named, baseless, rfl⟩ := baseName_error_iff.mp unnamed
      · exact ⟨_, .noName nameless, rfl⟩
      · exact ⟨_, .emptyBaseName named baseless, rfl⟩
    · obtain ⟨named, based, -⟩ := baseName_ok_iff.mp named
      obtain ⟨untyped, rfl⟩ | ⟨typed, varied, missing, rfl⟩ := typeAt_error_iff.mp unwritten
      · exact ⟨_, .noType named based untyped, rfl⟩
      · exact ⟨_, .notArray named based typed ⟨varied, missing⟩, rfl⟩
    · exact absurd refused (typeAt_ok_everywhere accepted)
    · cases impossible
  · rintro ⟨cause, blamed, rfl⟩
    cases blamed with
    | noName nameless => exact Or.inl (baseName_error_iff.mpr (Or.inl ⟨nameless, rfl⟩))
    | emptyBaseName named baseless =>
      exact Or.inl (baseName_error_iff.mpr (Or.inr ⟨named, baseless, rfl⟩))
    | noType named based untyped =>
      refine Or.inr ⟨_, baseName_ok_iff.mpr ⟨named, based, rfl⟩, Or.inl ?_⟩
      exact typeAt_error_iff.mpr (Or.inl ⟨untyped, rfl⟩)
    | notArray named based typed undimensioned =>
      refine Or.inr ⟨_, baseName_ok_iff.mpr ⟨named, based, rfl⟩, Or.inl ?_⟩
      exact typeAt_error_iff.mpr (Or.inr ⟨typed, undimensioned.1, undimensioned.2, rfl⟩)

theorem resolve_succeeds_iff :
    (∃ member, Member.resolve style spec = .ok member) ↔ ¬ IllFormed style spec.parameter := by
  cases resolved : Member.resolve style spec with
  | ok member =>
    simp only [Except.ok.injEq, exists_eq', true_iff]
    intro illFormed
    obtain ⟨cause, blamed⟩ := illFormed.blamed
    rw [resolve_error_iff.mpr ⟨cause, blamed, rfl⟩] at resolved
    cases resolved
  | error fault =>
    obtain ⟨cause, blamed, -⟩ := resolve_error_iff.mp resolved
    simp [blamed.illFormed]

theorem resolve_ok_iff {member : Member} :
    Member.resolve style spec = .ok member ↔ ∃ base declarationType storageType,
      spec.parameter.baseName style = .ok base ∧ spec.parameter.typeAt .declaration = .ok declarationType ∧
      spec.parameter.typeAt .storage = .ok storageType ∧
      member = {
        fieldName := style.fieldName spec.parameter.isStatic base
        parameterName := style.parameterName base
        capitalizedName := Text.capitalize base
        declarationType
        storageType
        isBoolean := spec.parameter.typeText = some "boolean"
        annotations := spec.parameter.annotationText
        documentation := spec.parameter.documentation
        finalParameter := style.finalParameters
        setterRequired := spec.setterRequired } := by
  simp only [Member.resolve, bind_ok_iff]
  constructor
  · rintro ⟨base, named, declarationType, declared, storageType, stored, same⟩
    cases same
    exact ⟨base, declarationType, storageType, named, declared, stored, rfl⟩
  · rintro ⟨base, declarationType, storageType, named, declared, stored, rfl⟩
    exact ⟨base, named, declarationType, declared, storageType, stored, rfl⟩

def lacking (draft : Draft) : List String :=
  (if draft.className = none then ["class name"] else []) ++
    (if draft.packageName = none then ["package name"] else []) ++
    (if draft.style = none then ["style configuration"] else [])

private theorem unset_message (settings : List RequiredSetting) :
    (ConfigurationFault.unset settings).message =
      "Cannot render before setting: " ++ ", ".intercalate (settings.map (·.label)) := rfl

private theorem labels_unsetSettings (draft : Draft) :
    draft.unsetSettings.map (·.label) = lacking draft := by
  cases className : draft.className <;> cases packageName : draft.packageName <;> cases given : draft.style <;>
    simp [Draft.unsetSettings, lacking, className, packageName, given, RequiredSetting.label]

theorem classModel_eq_ok_iff {draft : Draft} {model : ClassModel} :
    draft.classModel = .ok model ↔ ∃ style, draft.style = some style ∧ draft.className = some model.className ∧
      draft.packageName = some model.packageName ∧ draft.typeParameters = model.typeParameters ∧
      draft.fields.mapM (Member.resolve style) = .ok model.members := by
  unfold Draft.classModel
  constructor
  · intro settled
    split at settled
    next className packageName style named packaged styled =>
      obtain ⟨members, resolved, same⟩ := bind_ok_iff.mp settled
      cases same
      exact ⟨style, styled, named, packaged, rfl, resolved⟩
    · cases settled
  · rintro ⟨style, styled, named, packaged, typed, resolved⟩
    simp only [named, packaged, styled, resolved, typed]
    rfl

section Complete
variable {draft : Draft} {className packageName : String}

theorem render_incomplete (incomplete : lacking draft ≠ []) :
    draft.render = .error (.configuration (.unset draft.unsetSettings)) := by
  rw [Draft.render, Draft.classModel]
  split
  next className packageName style named packaged styled =>
    exact absurd (by simp [lacking, named, packaged, styled]) incomplete
  next => rfl

theorem render_complete (named : draft.className = some className)
    (packaged : draft.packageName = some packageName) (styled : draft.style = some style) :
    draft.render = (draft.fields.mapM (Member.resolve style)).map fun members =>
      ClassModel.text { packageName, className, typeParameters := draft.typeParameters, members } := by
  simp only [Draft.render, Draft.classModel, named, packaged, styled]
  cases draft.fields.mapM (Member.resolve style) <;> rfl

end Complete

/-- Rendering succeeds exactly when all settings are there and no field is ill-formed. It
never returns part of a text: it lists what is missing, or else blames the first field
that is ill-formed for its first defect, whatever fields follow. -/
theorem render_reports_first_fault (draft : Draft) :
    (lacking draft ≠ [] → ∃ cause, draft.render = .error (.configuration cause) ∧
      cause.message = "Cannot render before setting: " ++ ", ".intercalate (lacking draft)) ∧
    ∀ className packageName style, draft.className = some className →
      draft.packageName = some packageName → draft.style = some style →
      ((∃ name cause, draft.render = .error (.malformed name cause)) ↔
        ∃ spec ∈ draft.fields, IllFormed style spec.parameter) ∧
      (∀ spec, IllFormed style spec.parameter → ∃ cause, Blamed style spec.parameter cause ∧
        ∀ before later, draft.fields = before ++ spec :: later →
          (∀ earlier ∈ before, ¬ IllFormed style earlier.parameter) →
          draft.render = .error (.malformed spec.parameter.name cause)) ∧
      ((∀ spec ∈ draft.fields, ¬ IllFormed style spec.parameter) → ∃ members,
        List.Forall₂ (fun spec member => Member.resolve style spec = .ok member) draft.fields members ∧
        draft.render = .ok (ClassModel.text
          { packageName, className, typeParameters := draft.typeParameters, members })) := by
  refine ⟨fun incomplete => ⟨_, render_incomplete incomplete, ?_⟩, ?_⟩
  · rw [unset_message, labels_unsetSettings]
  intro className packageName style named packaged styled
  rw [render_complete named packaged styled]
  refine ⟨⟨?_, ?_⟩, ?_, ?_⟩
  · rintro ⟨name, cause, refused⟩
    obtain ⟨before, spec, later, shape, -, refused⟩ := mapM_error_iff.mp (map_error_iff.mp refused)
    obtain ⟨_, blamed, -⟩ := resolve_error_iff.mp refused
    exact ⟨spec, by simp [shape], blamed.illFormed⟩
  · rintro ⟨spec, member, illFormed⟩
    cases resolved : draft.fields.mapM (Member.resolve style) with
    | ok members =>
      have each := mapM_succeeds_iff.mp ⟨members, resolved⟩ spec member
      exact absurd illFormed (resolve_succeeds_iff.mp each)
    | error fault =>
      obtain ⟨_, first, _, -, -, refused⟩ := mapM_error_iff.mp resolved
      obtain ⟨cause, -, rfl⟩ := resolve_error_iff.mp refused
      exact ⟨first.parameter.name, cause, rfl⟩
  · intro spec illFormed
    obtain ⟨cause, blamed⟩ := illFormed.blamed
    refine ⟨cause, blamed, fun before later shape fine => map_error_iff.mpr (mapM_error_iff.mpr ?_)⟩
    refine ⟨before, spec, later, shape, ?_, resolve_error_iff.mpr ⟨cause, blamed, rfl⟩⟩
    exact fun earlier member => resolve_succeeds_iff.mpr (fine earlier member)
  · intro fine
    have each : ∀ spec ∈ draft.fields, ∃ member, Member.resolve style spec = .ok member :=
      fun spec member => resolve_succeeds_iff.mpr (fine spec member)
    obtain ⟨members, resolved⟩ := mapM_succeeds_iff.mpr each
    exact ⟨members, mapM_ok_iff.mp resolved, by rw [resolved]; rfl⟩

/-- The second field varies without a dimension and the third has no name. -/
theorem render_reports_second_of_three_fields :
    let fine : FieldSpec := { parameter := { name := "x", typeText := "int" } }
    let scalar : FieldSpec := { parameter := { name := "values", typeText := "int", varArgs := true } }
    let nameless : FieldSpec := { parameter := { name := none, typeText := "int" } }
    let draft : Draft := { className := "P", packageName := "", style := some {}, fields := [fine, scalar, nameless] }
    lacking draft = [] ∧ IllFormed {} scalar.parameter ∧ IllFormed {} nameless.parameter ∧
      draft.render = .error (.malformed "values" (.notArray "int")) := by
  intro fine scalar nameless draft
  have refused : Member.resolve {} scalar = .error (.malformed "values" (.notArray "int")) := by decide
  have illFormed : IllFormed {} scalar.parameter := by
    obtain ⟨_, blamed, -⟩ := resolve_error_iff.mp refused
    exact blamed.illFormed
  let x : Member :=
    { fieldName := "x", parameterName := "x", capitalizedName := "X", declarationType := "int", storageType := "int",
      isBoolean := false, annotations := "", documentation := none, finalParameter := false, setterRequired := false }
  have resolved : Member.resolve {} fine = .ok x := by decide
  have wellFormed : ∀ earlier ∈ [fine], ¬ IllFormed {} earlier.parameter := by
    rintro earlier member
    rw [List.mem_singleton.mp member]
    exact resolve_succeeds_iff.mp ⟨x, resolved⟩
  obtain ⟨cause, blamed, rendered⟩ :=
    ((render_reports_first_fault draft).2 "P" "" {} rfl rfl rfl).2.1 scalar illFormed
  have reported := resolve_error_iff.mpr ⟨cause, blamed, rfl⟩
  rw [refused] at reported
  have answered := rendered [fine] [nameless] rfl wellFormed
  rw [← Except.error.inj reported] at answered
  exact ⟨rfl, illFormed, Or.inl (Or.inl rfl), answered⟩

end ParamBundle.Proofs.RenderFaults
