import ParamBundle.Proofs.RenderFaults

/-! What can be seen of a field. A parameter comes with more than is shown: annotations whose
types are unknown, modifiers of every kind, documentation that says nothing. A field can be
cut down to what is shown, and a draft whose fields are cut down renders to the same text, or
is refused for the same fault; so fields that agree on what is shown cannot be told apart. -/

namespace ParamBundle.Proofs.DocumentedFields
open RenderFaults Traversal

variable {style : Style} {spec other : FieldSpec} {parameter : Parameter}

def resolvedUses (parameter : Parameter) : List AnnotationUse := parameter.annotations.filter (·.isResolved)

/-- Fields that agree on all that is shown of them. Documentation that is left out says as
little as an empty one, and of the modifiers only the one for statics counts. -/
structure Alike (spec other : FieldSpec) : Prop where
  name : spec.parameter.name = other.parameter.name
  typeText : spec.parameter.typeText = other.parameter.typeText
  varArgs : spec.parameter.varArgs = other.parameter.varArgs
  setterRequired : spec.setterRequired = other.setterRequired
  isStatic : "static" ∈ spec.parameter.modifiers ↔ "static" ∈ other.parameter.modifiers
  annotations : resolvedUses spec.parameter = resolvedUses other.parameter
  documentation : spec.parameter.documentation.getD "" = other.parameter.documentation.getD ""

structure SameSettings (draft other : Draft) : Prop where
  className : draft.className = other.className
  packageName : draft.packageName = other.packageName
  typeParameters : draft.typeParameters = other.typeParameters
  style : draft.style = other.style

/-! ### Cutting down -/

def shownDocumentation (documentation : Option String) : Option String :=
  let text := documentation.getD ""
  if text.isEmpty then none else some text

def cutDown (spec : FieldSpec) : FieldSpec :=
  { spec with
    parameter := { spec.parameter with
      modifiers := if spec.parameter.isStatic then .ofList ["static"] else .empty
      annotations := resolvedUses spec.parameter
      documentation := shownDocumentation spec.parameter.documentation } }

def cutDownFields (draft : Draft) : Draft := { draft with fields := draft.fields.map cutDown }

private theorem cutDown_eq_of_alike (alike : Alike spec other) : cutDown spec = cutDown other := by
  have isStatic : spec.parameter.isStatic = other.parameter.isStatic := by
    simp [Parameter.isStatic, alike.isStatic]
  have documentation : shownDocumentation spec.parameter.documentation = shownDocumentation other.parameter.documentation := by
    simp only [shownDocumentation, alike.documentation]
  simp only [cutDown, alike.name, alike.typeText, alike.varArgs, alike.setterRequired, isStatic, alike.annotations,
    documentation]

private theorem isStatic_cutDown (spec : FieldSpec) : (cutDown spec).parameter.isStatic = spec.parameter.isStatic := by
  have kept : (cutDown spec).parameter.modifiers = if spec.parameter.isStatic then .ofList ["static"] else .empty := rfl
  rw [Parameter.isStatic, kept]
  cases spec.parameter.isStatic with
  | true => exact decide_eq_true (NameSet.mem_ofList.mpr List.mem_cons_self)
  | false => exact decide_eq_false List.not_mem_nil

private theorem text_of_unresolved {use : AnnotationUse} (unresolved : use.isResolved = false) : use.text = "" := by
  cases named : use.qualifiedName with
  | none => simp [AnnotationUse.text, named]
  | some name => simpa [AnnotationUse.isResolved, AnnotationUse.text, named] using unresolved

/-- An unresolved annotation adds nothing, wherever it stands among the others. -/
theorem join_resolved (uses : List AnnotationUse) :
    String.join ((uses.filter (·.isResolved)).map (·.text)) = String.join (uses.map (·.text)) := by
  induction uses with
  | nil => rfl
  | cons use uses ih =>
    cases resolved : use.isResolved with
    | true => simp [resolved, String.join_cons, ih]
    | false => simp [resolved, String.join_cons, text_of_unresolved resolved, ih]

private theorem annotationText_cutDown (spec : FieldSpec) :
    (cutDown spec).parameter.annotationText = spec.parameter.annotationText := join_resolved spec.parameter.annotations

/-! ### What is written -/

def trimmed (member : Member) : Member := { member with documentation := shownDocumentation member.documentation }

/-- The same faults, and but for its documentation the same member. -/
theorem resolve_cutDown (style : Style) (spec : FieldSpec) :
    Member.resolve style (cutDown spec) = (Member.resolve style spec).map trimmed := by
  have named : (cutDown spec).parameter.baseName style = spec.parameter.baseName style := rfl
  have typed (site : TypeSite) : (cutDown spec).parameter.typeAt site = spec.parameter.typeAt site := rfl
  simp only [Member.resolve, named, typed, isStatic_cutDown, annotationText_cutDown]
  cases spec.parameter.baseName style with
  | error fault => rfl
  | ok base =>
    cases spec.parameter.typeAt .declaration with
    | error fault => rfl
    | ok declarationType => cases spec.parameter.typeAt .storage <;> rfl

theorem resolve_all_cutDown (style : Style) (specs : List FieldSpec) :
    (specs.map cutDown).mapM (Member.resolve style) = (specs.mapM (Member.resolve style)).map (List.map trimmed) := by
  induction specs with
  | nil => rfl
  | cons spec specs ih =>
    rw [List.map_cons, List.mapM_cons, List.mapM_cons, resolve_cutDown, ih]
    cases Member.resolve style spec with
    | error fault => rfl
    | ok member => cases specs.mapM (Member.resolve style) <;> rfl

private theorem documentationLines_trimmed (member : Member) : (trimmed member).documentationLines = member.documentationLines := by
  cases given : member.documentation with
  | none => simp [Member.documentationLines, trimmed, shownDocumentation, given]
  | some text => by_cases empty : text = "" <;> simp [Member.documentationLines, trimmed, shownDocumentation, given, empty]

/-- Each block of the class writes what it wrote before. -/
theorem text_trimmed (model : ClassModel) : { model with members := model.members.map trimmed }.text = model.text := by
  have fields : (fun member => (trimmed member).fieldLines) = Member.fieldLines := by
    funext member
    exact congrArg (· ++ [member.fieldLine]) (documentationLines_trimmed member)
  have constructor : ClassModel.constructorLines { model with members := model.members.map trimmed } = model.constructorLines := by
    simp only [ClassModel.constructorLines, ClassModel.constructorLine, List.map_map]
    rfl
  have getters : (fun member => (trimmed member).getterLines) = Member.getterLines := rfl
  have setters : (fun member => (trimmed member).setterLines) = Member.setterLines := rfl
  simp only [ClassModel.text, ClassModel.lines, List.flatMap_map, fields, constructor, getters, setters]
  rfl

private theorem classModel_cutDownFields (draft : Draft) :
    (cutDownFields draft).classModel = draft.classModel.map fun model => { model with members := model.members.map trimmed } := by
  simp only [Draft.classModel, cutDownFields]
  split
  next style _ _ _ =>
    simp only [resolve_all_cutDown]
    cases draft.fields.mapM (Member.resolve style) <;> rfl
  · rfl

theorem render_cutDownFields (draft : Draft) : (cutDownFields draft).render = draft.render := by
  rw [Draft.render, Draft.render, classModel_cutDownFields]
  cases draft.classModel with
  | error fault => rfl
  | ok model => exact congrArg Except.ok (text_trimmed model)

/-- Drafts with the same settings, whose fields agree one by one on what is shown, render to the
same text or are refused for the same fault. What is not shown can be left out altogether:
annotations that are not resolved and modifiers other than `static` leave no trace. -/
theorem only_shown_parts_are_told :
    (∀ draft other, SameSettings draft other → List.Forall₂ Alike draft.fields other.fields →
      draft.render = other.render) ∧
    ∀ draft, (cutDownFields draft).render = draft.render := by
  refine ⟨?_, render_cutDownFields⟩
  intro draft other same alike
  have fields : draft.fields.map cutDown = other.fields.map cutDown :=
    map_eq_iff_forall₂.mpr (alike.imp fun _ _ => cutDown_eq_of_alike)
  have cut : cutDownFields draft = cutDownFields other := by
    simp only [cutDownFields, same.className, same.packageName, same.typeParameters, same.style, fields]
  rw [← render_cutDownFields draft, cut, render_cutDownFields other]

/-- Unresolved annotations on either side of a resolved one, a modifier that is not shown and
documentation that is empty: the class is that of the field without them. -/
theorem unresolved_annotations_leave_no_trace :
    let known : AnnotationUse := { qualifiedName := "Id", arguments := "(1)" }
    let unknown (name : Option String) : AnnotationUse := { qualifiedName := name, arguments := "(2)" }
    let field (annotations : List AnnotationUse) (modifiers : List String) (documentation : Option String) : FieldSpec :=
      { parameter := { name := "x", typeText := "int", modifiers := .ofList modifiers, annotations, documentation } }
    let draft (field : FieldSpec) : Draft := { className := "P", packageName := "", style := some {}, fields := [field] }
    let full := draft (field [unknown none, known, unknown ""] ["final", "static"] none)
    let plain := draft (field [known] ["static"] "")
    SameSettings full plain ∧ List.Forall₂ Alike full.fields plain.fields ∧ full.render = plain.render ∧
      (cutDownFields full).render = full.render ∧ full.render.isOk = true := by
  intro known unknown field draft full plain
  have same : SameSettings full plain := ⟨rfl, rfl, rfl, rfl⟩
  have alike : List.Forall₂ Alike full.fields plain.fields :=
    .cons ⟨rfl, rfl, rfl, rfl, by decide, by decide, rfl⟩ .nil
  have resolved : (full.fields.mapM (Member.resolve {})).isOk = true := by decide
  have rendered : full.render.isOk = true := by
    rw [render_complete rfl rfl rfl]
    cases read : full.fields.mapM (Member.resolve {}) with
    | ok members => rfl
    | error fault => rwa [read] at resolved
  exact ⟨same, alike, only_shown_parts_are_told.1 full plain same alike, only_shown_parts_are_told.2 full, rendered⟩

end ParamBundle.Proofs.DocumentedFields
