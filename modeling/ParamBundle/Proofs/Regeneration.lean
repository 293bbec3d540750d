import ParamBundle.Proofs.RenderFaults

/-! Generated names and types can be fed back. A parameter that already carries the names
and types of the generated class yields the same class: taking the conventions off undoes
putting them on, and either way of writing a variable-arity type shows the same component. -/

namespace ParamBundle.Proofs.Regeneration
open RenderFaults Text Traversal TypeTexts

variable {style : Style} {parameter : Parameter} {site other : TypeSite}

/-- However the affixes overlap each other or the name, each is taken off just once. -/
theorem stripAffixes_append (start base finish : List Char) :
    Style.stripAffixes start finish (start ++ base ++ finish) = base := by
  have first : dropStart? start (start ++ base ++ finish) = some (base ++ finish) :=
    dropStart?_eq_some_iff.mpr (List.append_assoc ..)
  have last : dropEnd? finish (base ++ finish) = some base := dropEnd?_eq_some_iff.mpr rfl
  simp only [Style.stripAffixes, first, last, Option.getD_some]

theorem baseName_parameterName (style : Style) (base : String) : style.baseName (style.parameterName base) = base := by
  rw [Style.baseName, Style.parameterName, String.toList_append, String.toList_append, stripAffixes_append,
    String.ofList_toList]

theorem name_of_baseName {base : String} (named : parameter.baseName style = .ok base) :
    ∃ name, parameter.name = some name ∧ style.baseName name = base ∧ base ≠ "" := by
  obtain ⟨present, based, shown⟩ := baseName_ok_iff.mp named
  cases given : parameter.name with
  | none => exact absurd (Or.inl given) present
  | some name =>
    simp only [given, Option.getD_some] at shown
    exact ⟨name, rfl, shown, fun empty => based ⟨name, given, shown.trans empty⟩⟩

theorem baseName_generated {base : String} (visible : base ≠ "")
    (given : parameter.name = some (style.parameterName base)) : parameter.baseName style = .ok base := by
  have whole : style.parameterName base ≠ "" := by simp [Style.parameterName, visible]
  simp [Parameter.baseName, given, baseName_parameterName, whole, visible]

private theorem trimEnd_idem (text : String) : trimEnd (trimEnd text) = trimEnd text := by
  simp [trimEnd, dropTrailing_idem]

/-- The end of a dimension is visible. -/
theorem trimEnd_suffix (text : String) (site : TypeSite) : trimEnd (text ++ site.suffix) = text ++ site.suffix := by
  rw [← String.toList_inj, trimEnd, String.toList_ofList, String.toList_append]
  cases site with
  | declaration =>
    have last : text.toList ++ "...".toList = text.toList ++ ['.', '.'] ++ ['.'] := by simp
    rw [TypeSite.suffix, last, dropTrailing_concat _ (by decide)]
  | storage =>
    have last : text.toList ++ "[]".toList = text.toList ++ ['['] ++ [']'] := by simp
    rw [TypeSite.suffix, last, dropTrailing_concat _ (by decide)]

private theorem component_of_suffix {typeText component : String} (found : ComponentOf typeText component) (site : TypeSite) :
    ComponentOf (component ++ site.suffix) component := by
  obtain ⟨visible, stem, -, -, -, rfl⟩ := found
  refine ⟨visible, trimEnd stem, site.suffix, ?_, trimEnd_suffix _ _, trimEnd_idem stem⟩
  cases site
  · exact Or.inl rfl
  · exact Or.inr rfl

/-- A component alone shows something, so the type it was taken from does too. -/
theorem component_visible {typeText component : String} (found : ComponentOf typeText component) :
    isBlank typeText = false := by
  obtain ⟨-, stem, suffix, dimension, shape, -⟩ := found
  by_contra blank
  have trimmed : dropTrailing isBlankChar typeText.toList = [] :=
    dropTrailing_eq_nil (by simpa [isBlank] using blank)
  rw [trimEnd, trimmed, ← String.toList_inj] at shape
  rcases dimension with rfl | rfl <;> simp at shape

/-- The parameter under the names and types that the class gives it. Either place where its
type appears will do. -/
def rewritten (style : Style) (site : TypeSite) (spec : FieldSpec) : FieldSpec :=
  let parameter := spec.parameter
  { spec with
    parameter := { parameter with
      name := parameter.name.map fun name => style.parameterName (style.baseName name)
      typeText := (parameter.typeAt site).toOption } }

theorem typeAt_rewritten {spec : FieldSpec} {written shown : String}
    (taken : spec.parameter.typeAt site = .ok written) (accepted : spec.parameter.typeAt other = .ok shown) :
    (rewritten style site spec).parameter.typeAt other = .ok shown := by
  have kept : (rewritten style site spec).parameter.typeText = some written := by
    simp [rewritten, taken, Except.toOption]
  obtain ⟨typed, spelled⟩ := typeAt_ok_iff.mp taken
  obtain ⟨-, shows⟩ := typeAt_ok_iff.mp accepted
  rw [typeAt_ok_iff, untyped_iff, kept]
  cases varied : spec.parameter.varArgs with
  | false =>
    have varied' : (rewritten style site spec).parameter.varArgs = false := varied
    simp only [varied, Bool.false_eq_true, if_false] at spelled shows
    subst spelled
    rw [untyped_iff] at typed
    exact ⟨by simpa using typed, by simpa [varied'] using shows⟩
  | true =>
    have varied' : (rewritten style site spec).parameter.varArgs = true := varied
    simp only [varied, if_true] at spelled shows
    obtain ⟨component, found, rfl⟩ := spelled
    obtain ⟨again, same, rfl⟩ := shows
    obtain rfl := component_unique found same
    have spelled := component_of_suffix found site
    simp only [varied', if_true, Option.getD_some, component_visible spelled]
    exact ⟨Bool.false_ne_true, component, spelled, rfl⟩

/-- No variable-arity type is the plain boolean one, before or after. -/
theorem boolean_rewritten {spec : FieldSpec} {written : String} (taken : spec.parameter.typeAt site = .ok written) :
    (rewritten style site spec).parameter.typeText = some "boolean" ↔ spec.parameter.typeText = some "boolean" := by
  have kept : (rewritten style site spec).parameter.typeText = some written := by
    simp [rewritten, taken, Except.toOption]
  have scalar (component : String) : ¬ ComponentOf "boolean" component := by
    rintro ⟨-, stem, suffix, dimension, shape, -⟩
    have last := congrArg (·.toList.getLast?) shape
    rcases dimension with rfl | rfl <;> simp [trimEnd, dropTrailing, isBlankChar] at last
  obtain ⟨typed, spelled⟩ := typeAt_ok_iff.mp taken
  rw [kept]
  cases varied : spec.parameter.varArgs with
  | false =>
    simp only [varied, Bool.false_eq_true, if_false] at spelled
    cases given : spec.parameter.typeText with
    | none => exact absurd (by simp [Untyped, given]) typed
    | some text => simp [← spelled, given]
  | true =>
    simp only [varied, if_true] at spelled
    obtain ⟨component, found, rfl⟩ := spelled
    constructor
    · intro same
      have scalarType := component_of_suffix found site
      rw [Option.some.inj same] at scalarType
      exact absurd scalarType (scalar component)
    · intro same
      rw [same] at found
      exact absurd found (scalar component)

/-- Nothing that is written for the field changes. -/
theorem resolve_rewritten {spec : FieldSpec} {member : Member} (resolved : Member.resolve style spec = .ok member)
    (site : TypeSite) : Member.resolve style (rewritten style site spec) = .ok member := by
  obtain ⟨base, declarationType, storageType, named, declared, stored, rfl⟩ := resolve_ok_iff.mp resolved
  have taken : ∃ written, spec.parameter.typeAt site = .ok written := by
    cases site
    · exact ⟨_, declared⟩
    · exact ⟨_, stored⟩
  obtain ⟨written, taken⟩ := taken
  obtain ⟨name, given, shown, visible⟩ := name_of_baseName named
  have again : (rewritten style site spec).parameter.baseName style = .ok base := by
    apply baseName_generated visible
    simp [rewritten, given, shown]
  refine resolve_ok_iff.mpr ⟨base, declarationType, storageType, again, typeAt_rewritten taken declared,
    typeAt_rewritten taken stored, ?_⟩
  simp only [boolean_rewritten taken]
  rfl

def regenerated (draft : Draft) (sites : Nat → TypeSite) : Draft :=
  match draft.style with
  | some style => { draft with fields := draft.fields.mapIdx fun index spec => rewritten style (sites index) spec }
  | none => draft

private theorem resolve_all_rewritten {specs : List FieldSpec} {members : List Member}
    (resolved : List.Forall₂ (fun spec member => Member.resolve style spec = .ok member) specs members)
    (sites : Nat → TypeSite) :
    List.Forall₂ (fun spec member => Member.resolve style spec = .ok member)
      (specs.mapIdx fun index spec => rewritten style (sites index) spec) members := by
  induction resolved generalizing sites with
  | nil => exact .nil
  | cons first _ ih =>
    rw [List.mapIdx_cons]
    exact .cons (resolve_rewritten first _) (ih fun index => sites (index + 1))

/-- Rendering what was rendered gives the same text again. -/
theorem regeneration_is_fixed_point {draft : Draft} {text : String} (rendered : draft.render = .ok text)
    (sites : Nat → TypeSite) : (regenerated draft sites).render = .ok text := by
  obtain ⟨model, settled, shown⟩ := map_ok_iff.mp rendered
  obtain ⟨style, styled, named, packaged, typed, resolved⟩ := classModel_eq_ok_iff.mp settled
  have again : (regenerated draft sites).classModel = .ok model := by
    simp only [regenerated, styled]
    apply classModel_eq_ok_iff.mpr
    exact ⟨style, rfl, named, packaged, typed, mapM_ok_iff.mpr (resolve_all_rewritten (mapM_ok_iff.mp resolved) sites)⟩
  rw [Draft.render, again]
  exact congrArg Except.ok shown

/-- One name gains the affixes, the other carries them already, and the two forms of the
variable-arity type stand for each other. -/
theorem tags_are_regenerated :
    let style : Style := { parameterPrefix := "p", parameterSuffix := "p", fieldPrefix := "m_" }
    let field (name typeText : String) : FieldSpec :=
      { parameter := { name, typeText, varArgs := true }, setterRequired := true }
    let draft (first second : FieldSpec) : Draft :=
      { className := "Tags", packageName := "", style, fields := [first, second] }
    let sites (index : Nat) : TypeSite := if index = 0 then .storage else .declaration
    let start := draft (field "tags" "String ... ") (field "ppp" "int[]")
    regenerated start sites = draft (field "ptagsp" "String[]") (field "ppp" "int...") ∧
      ∃ text, start.render = .ok text ∧ (regenerated start sites).render = .ok text := by
  intro style field draft sites start
  have changed : regenerated start sites = draft (field "ptagsp" "String[]") (field "ppp" "int...") := by decide
  let member (base capitalized component : String) : Member :=
    { fieldName := "m_" ++ base, parameterName := "p" ++ base ++ "p", capitalizedName := capitalized,
      declarationType := component ++ "...", storageType := component ++ "[]", isBoolean := false, annotations := "",
      documentation := none, finalParameter := false, setterRequired := true }
  let model : ClassModel :=
    { packageName := "", className := "Tags", typeParameters := [],
      members := [member "tags" "Tags" "String", member "p" "P" "int"] }
  have settled : start.classModel = .ok model := by decide
  have rendered : start.render = .ok model.text := by
    rw [Draft.render, settled]
    rfl
  exact ⟨changed, model.text, rendered, regeneration_is_fixed_point rendered sites⟩

end ParamBundle.Proofs.Regeneration
