import ParamBundle.Draft
import ParamBundle.Proofs.DottedNames
import ParamBundle.Proofs.RenderFaults

/-! Texts of a single line. What is written for a member is put together from the texts of
its field without ever adding a line feed, so the lines of a class are those it was made of. -/

namespace ParamBundle.Proofs.LineFeeds
open DottedNames RenderFaults Text Traversal TypeTexts

variable {first second text name : String}

def SingleLine (text : String) : Prop := '\n' ∉ text.toList

instance (text : String) : Decidable (SingleLine text) := inferInstanceAs (Decidable (¬ _))

/-- The pieces between line feeds; a text that ends with one has an empty last piece. -/
def linesOf (text : String) : List String := (text.toList.splitOn '\n').map String.ofList

theorem linesOf_unlines {lines : List String} (single : ∀ line ∈ lines, SingleLine line) :
    linesOf (unlines lines) = lines ++ [""] := by
  induction lines with
  | nil => simp [linesOf, unlines]
  | cons line rest ih =>
    obtain ⟨here, below⟩ := List.forall_mem_cons.mp single
    have shape : (unlines (line :: rest)).toList = line.toList ++ '\n' :: (unlines rest).toList := by
      simp [unlines, String.join_cons]
    have split : linesOf (unlines (line :: rest)) = line :: linesOf (unlines rest) := by
      rw [linesOf, shape, List.splitOn_append_cons_self_of_not_mem here]
      simp [linesOf]
    rw [split, ih below, List.cons_append]

@[simp]
theorem singleLine_append : SingleLine (first ++ second) ↔ SingleLine first ∧ SingleLine second := by
  simp [SingleLine]

theorem singleLine_join {texts : List String} (single : ∀ text ∈ texts, SingleLine text) :
    SingleLine (String.join texts) := by
  simpa [SingleLine] using single

/-- A character of joined texts comes from one of them or from what stands between. -/
theorem not_mem_intercalate {c : Char} {separator : String} {texts : List String} (between : c ∉ separator.toList)
    (each : ∀ text ∈ texts, c ∉ text.toList) : c ∉ (separator.intercalate texts).toList := by
  induction texts with
  | nil => simp
  | cons text rest ih =>
    obtain ⟨here, below⟩ := List.forall_mem_cons.mp each
    cases rest with
    | nil => simpa using here
    | cons next others =>
      rw [String.intercalate_cons_of_ne_nil (by simp), String.toList_append, String.toList_append]
      simp only [List.mem_append, not_or]
      exact ⟨⟨here, between⟩, ih below⟩

theorem singleLine_intercalate {separator : String} {texts : List String} (line : SingleLine separator)
    (single : ∀ text ∈ texts, SingleLine text) : SingleLine (separator.intercalate texts) :=
  not_mem_intercalate line single

theorem singleLine_isIdentifier (good : isIdentifier name = true) : SingleLine name :=
  not_mem_isIdentifier good rfl

theorem singleLine_isDotted (dotted : IsDotted name) : SingleLine name := by
  obtain ⟨pieces, -, good, rfl⟩ := dotted
  apply singleLine_intercalate (by decide)
  exact fun piece member => singleLine_isIdentifier (good piece member)

/-- Fewer characters bring no line feed. -/
theorem SingleLine.of_subset (single : SingleLine text) {chars : List Char} (fewer : chars ⊆ text.toList) :
    SingleLine (String.ofList chars) := by
  rw [SingleLine, String.toList_ofList]
  exact fun member => single (fewer member)

private theorem stripAffixes_subset (start finish name : List Char) : Style.stripAffixes start finish name ⊆ name := by
  have inner : (dropStart? start name).getD name ⊆ name := by
    cases found : dropStart? start name with
    | none => simp
    | some rest => simp [dropStart?_eq_some_iff.mp found]
  rw [Style.stripAffixes]
  cases found : dropEnd? finish ((dropStart? start name).getD name) with
  | none => simpa [found] using inner
  | some rest =>
    rw [dropEnd?_eq_some_iff.mp found] at inner
    exact List.Subset.trans (List.subset_append_left _ _) inner

section Capitals

private theorem ofNat_eq_newline {code : Nat} (same : Char.ofNat code = '\n') : code = 10 := by
  by_cases valid : code.isValidChar
  · exact congrArg Char.toNat ((dif_pos valid).symm.trans same)
  · cases (dif_neg valid).symm.trans same

theorem toUpper_ascii : ∀ code < 0x80, (Char.ofNat code).toUpper = '\n' → code = 10 := by decide +kernel

private theorem caseExpansions_visible : ∀ entry ∈ caseExpansions, 10 ∉ entry.2 := by decide

private theorem caseRuns_visible : ∀ run ∈ caseRuns, 10 < run.first + run.shift := by decide +kernel

/-- The line feed is the capital of nothing but itself. -/
theorem newline_not_mem_uppercaseChar {c : Char} (other : c ≠ '\n') : '\n' ∉ uppercaseChar c := by
  rw [uppercaseChar]
  split
  next ascii =>
    intro member
    have same : (Char.ofNat c.toNat).toUpper = '\n' := by
      rw [Char.ofNat_toNat]
      exact (List.mem_singleton.mp member).symm
    apply other
    rw [← Char.ofNat_toNat c, toUpper_ascii c.toNat ascii same]
  next =>
    split
    next codes found =>
      intro member
      obtain ⟨code, listed, same⟩ := List.mem_map.mp member
      obtain ⟨before, later, shape, -⟩ := List.lookup_eq_some_iff.mp found
      rw [ofNat_eq_newline same] at listed
      exact caseExpansions_visible (c.toNat, codes) (by simp [shape]) listed
    next =>
      split
      next run found =>
        intro member
        have code := ofNat_eq_newline (List.mem_singleton.mp member).symm
        have above := caseRuns_visible run (List.mem_of_find?_eq_some found)
        have inside := List.find?_some found
        simp only [CaseRun.contains, Bool.and_eq_true, decide_eq_true_eq] at inside
        omega
      next => exact fun member => other (List.mem_singleton.mp member).symm

end Capitals

theorem SingleLine.capitalize (single : SingleLine text) : SingleLine (capitalize text) := by
  unfold Text.capitalize
  split
  · decide
  next first rest shape =>
    rw [SingleLine, shape, List.mem_cons, not_or] at single
    rw [SingleLine, String.toList_ofList, List.mem_append, not_or]
    exact ⟨newline_not_mem_uppercaseChar fun same => single.1 same.symm, single.2⟩

def affixes (style : Style) : List String :=
  [style.fieldPrefix, style.fieldSuffix, style.staticFieldPrefix, style.staticFieldSuffix, style.parameterPrefix,
    style.parameterSuffix]

/-- The texts that a parameter shows of itself. Its modifiers are never written. -/
def parameterTexts (parameter : Parameter) : List String :=
  parameter.name.toList ++ parameter.typeText.toList ++ parameter.documentation.toList ++
    parameter.annotations.flatMap fun use => use.qualifiedName.toList ++ [use.arguments]

/-- All texts of a draft apart from the names of its class and package. -/
def draftTexts (draft : Draft) : List String :=
  draft.typeParameters ++ draft.style.toList.flatMap affixes ++
    draft.fields.flatMap fun spec => parameterTexts spec.parameter

section Fields
variable {style : Style} {parameter : Parameter} {spec : FieldSpec} {member : Member}

private theorem baseName_singleLine {base : String} (single : ∀ text ∈ parameterTexts parameter, SingleLine text)
    (named : parameter.baseName style = .ok base) : SingleLine base := by
  obtain ⟨-, -, rfl⟩ := baseName_ok_iff.mp named
  have whole : SingleLine (parameter.name.getD "") := by
    cases given : parameter.name with
    | none => decide
    | some name => exact single name (by simp [parameterTexts, given])
  exact whole.of_subset (stripAffixes_subset _ _ _)

private theorem typeAt_singleLine {site : TypeSite} (single : ∀ text ∈ parameterTexts parameter, SingleLine text)
    (written : parameter.typeAt site = .ok text) : SingleLine text := by
  obtain ⟨-, spelled⟩ := typeAt_ok_iff.mp written
  have whole : SingleLine (parameter.typeText.getD "") := by
    cases given : parameter.typeText with
    | none => decide
    | some typeText => exact single typeText (by simp [parameterTexts, given])
  cases varied : parameter.varArgs with
  | false =>
    rw [varied] at spelled
    exact spelled ▸ whole
  | true =>
    rw [varied] at spelled
    obtain ⟨component, ⟨-, stem, suffix, -, shape, rfl⟩, rfl⟩ := spelled
    have trimmed : SingleLine (trimEnd (parameter.typeText.getD "")) := whole.of_subset (dropTrailing_subset _ _)
    rw [shape, singleLine_append] at trimmed
    refine singleLine_append.mpr ⟨trimmed.1.of_subset (dropTrailing_subset _ _), ?_⟩
    cases site <;> decide

private theorem annotationText_singleLine (single : ∀ text ∈ parameterTexts parameter, SingleLine text) :
    SingleLine parameter.annotationText := by
  refine singleLine_join (List.forall_mem_map.mpr fun use used => ?_)
  have texts : ∀ text ∈ use.qualifiedName.toList ++ [use.arguments], SingleLine text := by
    intro text member
    apply single
    exact List.mem_append_right _ (List.mem_flatMap.mpr ⟨use, used, member⟩)
  rw [AnnotationUse.text]
  split
  next name given =>
    split
    · decide
    · have named : SingleLine name := texts name (by simp [given])
      have argued : SingleLine use.arguments := texts use.arguments (by simp)
      simp only [singleLine_append]
      exact ⟨⟨⟨by decide, named⟩, argued⟩, by decide⟩
  · decide

structure SingleMember (member : Member) : Prop where
  fieldName : SingleLine member.fieldName
  parameterName : SingleLine member.parameterName
  capitalizedName : SingleLine member.capitalizedName
  declarationType : SingleLine member.declarationType
  storageType : SingleLine member.storageType
  annotations : SingleLine member.annotations
  documentation : ∀ text, member.documentation = some text → SingleLine text

theorem resolve_singleMember (single : ∀ text ∈ affixes style ++ parameterTexts spec.parameter, SingleLine text)
    (resolved : Member.resolve style spec = .ok member) : SingleMember member := by
  obtain ⟨base, declarationType, storageType, named, declared, stored, rfl⟩ := resolve_ok_iff.mp resolved
  obtain ⟨affixed, texts⟩ := List.forall_mem_append.mp single
  have baseLine := baseName_singleLine texts named
  simp only [affixes, List.forall_mem_cons] at affixed
  obtain ⟨fieldPrefix, fieldSuffix, staticPrefix, staticSuffix, parameterPrefix, parameterSuffix, -⟩ := affixed
  refine ⟨?_, ?_, baseLine.capitalize, typeAt_singleLine texts declared, typeAt_singleLine texts stored,
    annotationText_singleLine texts, ?_⟩
  · simp only [Style.fieldName]
    split <;> simp [*]
  · simp [Style.parameterName, *]
  · intro text given
    exact texts text (by simp_all [parameterTexts])

theorem SingleMember.fieldLines (single : SingleMember member) : ∀ line ∈ member.fieldLines, SingleLine line := by
  have documented : ∀ line ∈ member.documentationLines, SingleLine line := by
    intro line listed
    unfold Member.documentationLines at listed
    split at listed
    next text given =>
      split at listed
      · cases listed
      · exact List.mem_singleton.mp listed ▸ single.documentation text given
    · cases listed
  have modifiers : SingleLine (if member.setterRequired then "private " else "private final ") := by
    split <;> decide
  refine List.forall_mem_append.mpr ⟨documented, ?_⟩
  simp +decide [Member.fieldLine, modifiers, single.annotations, single.storageType, single.fieldName]

theorem SingleMember.assignmentLine (single : SingleMember member) : SingleLine member.assignmentLine := by
  have qualifier : SingleLine (if member.assignment.qualified then "this." else "") := by
    split <;> decide
  have field : SingleLine member.assignment.field := single.fieldName
  have parameter : SingleLine member.assignment.parameter := single.parameterName
  simp +decide [Member.assignmentLine, Assignment.text, qualifier, field, parameter]

theorem SingleMember.declaration (single : SingleMember member) : SingleLine member.declaration := by
  have modifier : SingleLine (if member.finalParameter then "final " else "") := by
    split <;> decide
  simp +decide [Member.declaration, modifier, single.annotations, single.declarationType, single.parameterName]

theorem SingleMember.getterLines (single : SingleMember member) : ∀ line ∈ member.getterLines, SingleLine line := by
  have name : SingleLine (if member.isBoolean then "is" else "get") := by
    split <;> decide
  simp +decide [Member.getterLines, Member.getterName, name, single.annotations, single.storageType,
    single.capitalizedName, single.fieldName]

theorem SingleMember.setterLines (single : SingleMember member) : ∀ line ∈ member.setterLines, SingleLine line := by
  unfold Member.setterLines
  split
  · simp +decide [Member.setterName, single.capitalizedName, single.declaration, single.assignmentLine]
  · simp

end Fields

def typeClause (typeParameters : List String) : String :=
  if typeParameters.isEmpty then "" else "<" ++ ",".intercalate typeParameters ++ ">"

theorem header_eq (model : ClassModel) :
    model.header = "public class " ++ model.className ++ typeClause model.typeParameters ++ "\x7b" := rfl

private theorem typeClause_singleLine {typeParameters : List String} (single : ∀ text ∈ typeParameters, SingleLine text) :
    SingleLine (typeClause typeParameters) := by
  have joined : SingleLine (",".intercalate typeParameters) := singleLine_intercalate (by decide) single
  unfold typeClause
  split
  · decide
  · simp +decide [joined]

structure SingleModel (model : ClassModel) : Prop where
  packageName : SingleLine model.packageName
  className : SingleLine model.className
  typeParameters : ∀ text ∈ model.typeParameters, SingleLine text
  members : ∀ member ∈ model.members, SingleMember member

variable {model : ClassModel}

theorem SingleModel.constructorLines (single : SingleModel model) : ∀ line ∈ model.constructorLines, SingleLine line := by
  have declared : SingleLine (", ".intercalate (model.members.map (·.declaration))) := by
    apply singleLine_intercalate (by decide)
    exact List.forall_mem_map.mpr fun member listed => (single.members member listed).declaration
  have assigned : ∀ line ∈ model.members.map (·.assignmentLine), SingleLine line :=
    List.forall_mem_map.mpr fun member listed => (single.members member listed).assignmentLine
  have first : SingleLine model.constructorLine := by
    simp +decide [ClassModel.constructorLine, single.className, declared]
  refine List.forall_mem_append.mpr ⟨List.forall_mem_append.mpr ⟨?_, assigned⟩, ?_⟩
  · simp +decide [first]
  · simp +decide

theorem SingleModel.lines (single : SingleModel model) : ∀ line ∈ model.lines, SingleLine line := by
  have package : ∀ line ∈ model.packageLines, SingleLine line := by
    unfold ClassModel.packageLines
    split
    · simp
    · simp +decide [single.packageName]
  have header : SingleLine model.header := by
    simp +decide [header_eq, single.className, typeClause_singleLine single.typeParameters]
  simp only [ClassModel.lines, List.forall_mem_append, List.forall_mem_flatMap, List.forall_mem_singleton]
  exact ⟨⟨⟨⟨⟨⟨package, header⟩, fun member listed => (single.members member listed).fieldLines⟩,
    single.constructorLines⟩, fun member listed => (single.members member listed).getterLines⟩,
    fun member listed => (single.members member listed).setterLines⟩, by decide⟩

end ParamBundle.Proofs.LineFeeds
