import ParamBundle.Proofs.LineFeeds
import ParamBundle.Proofs.NameCollisions
import Mathlib.Data.List.Basic

/-! Which generated names are identifiers. Names that stand behind a word of their own always
are, and so is a parameter, which takes its convention back on. A field takes off the
convention of its parameter for its own. When that begins with nothing, what is left of the
name has to begin an identifier by itself, and it may begin with a digit. -/

namespace ParamBundle.Proofs.GeneratedIdentifiers
open DottedNames LineFeeds NameCollisions RenderFaults Text Traversal

variable {text base finish start : String} {style : Style}

def HasIdentifierParts (text : String) : Prop := ∀ c ∈ text.toList, isIdentifierPart c = true

instance (text : String) : Decidable (HasIdentifierParts text) :=
  decidable_of_iff (text.toList.all isIdentifierPart = true) List.all_eq_true

def BeginsWithDigit (text : String) : Prop := text.toList.head?.any Char.isDigit = true

instance (text : String) : Decidable (BeginsWithDigit text) := inferInstanceAs (Decidable (_ = true))

section Characters
variable {c : Char}

private theorem ascii_of_part (part : isIdentifierPart c = true) : c.toNat < 0x80 := by
  change (((decide (c.val ≥ 'A'.val ∧ c.val ≤ 'Z'.val) || (decide (c.val ≥ 'a'.val) && decide (c.val ≤ 'z'.val))) ||
    (decide (c.val ≥ '0'.val) && decide (c.val ≤ '9'.val))) || c == '_' || c == '$') = true at part
  simp only [Bool.or_eq_true, Bool.and_eq_true, decide_eq_true_eq, beq_iff_eq, ge_iff_le,
    UInt32.le_iff_toNat_le] at part
  change ((((65 ≤ c.toNat ∧ c.toNat ≤ 90) ∨ (97 ≤ c.toNat ∧ c.toNat ≤ 122)) ∨ (48 ≤ c.toNat ∧ c.toNat ≤ 57)) ∨
    c = '_') ∨ c = '$' at part
  obtain ((((_ | _) | _) | rfl) | rfl) := part
  · omega
  · omega
  · omega
  · decide
  · decide

/-- Only a digit stands in identifiers without being able to begin one, and capitals of what
stands in an identifier stand in identifiers. -/
theorem ascii_parts : ∀ code < 0x80, isIdentifierPart (Char.ofNat code) = true →
    isIdentifierStart (Char.ofNat code) = !(Char.ofNat code).isDigit ∧
      isIdentifierPart (Char.ofNat code).toUpper = true := by decide +kernel

private theorem part_facts (part : isIdentifierPart c = true) :
    isIdentifierStart c = !c.isDigit ∧ isIdentifierPart c.toUpper = true := by
  have facts := ascii_parts c.toNat (ascii_of_part part)
  rw [Char.ofNat_toNat] at facts
  exact facts part

private theorem uppercaseChar_part (part : isIdentifierPart c = true) : uppercaseChar c = [c.toUpper] := by
  rw [uppercaseChar, if_pos (ascii_of_part part)]

end Characters

section Texts

@[simp]
theorem hasIdentifierParts_append :
    HasIdentifierParts (start ++ finish) ↔ HasIdentifierParts start ∧ HasIdentifierParts finish := by
  simp [HasIdentifierParts, or_imp, forall_and]

theorem isIdentifier_iff :
    isIdentifier text = true ↔ text ≠ "" ∧ HasIdentifierParts text ∧ ¬ BeginsWithDigit text := by
  rw [ne_eq, ← String.toList_inj]
  unfold isIdentifier HasIdentifierParts BeginsWithDigit
  cases text.toList with
  | nil => simp
  | cons first rest =>
    simp only [Bool.and_eq_true, List.all_eq_true, List.forall_mem_cons, List.head?_cons, Option.any_some]
    constructor
    · intro ⟨begins, parts⟩
      have part := isIdentifierPart_of_start begins
      rw [(part_facts part).1] at begins
      exact ⟨by simp, ⟨part, parts⟩, by simpa using begins⟩
    · intro ⟨_, ⟨part, parts⟩, letter⟩
      exact ⟨by simp [(part_facts part).1, letter], parts⟩

private theorem beginsWithDigit_append (visible : start ≠ "") : BeginsWithDigit (start ++ finish) ↔ BeginsWithDigit start := by
  rw [BeginsWithDigit, BeginsWithDigit, String.toList_append]
  cases shape : start.toList with
  | nil => exact absurd (String.toList_eq_nil_iff.mp shape) visible
  | cons first rest => rfl

/-- A convention around a base name: the base name has to begin the identifier exactly when
nothing stands before it. -/
theorem isIdentifier_around (parts : HasIdentifierParts base) (visible : base ≠ "") (before : HasIdentifierParts start)
    (letter : ¬ BeginsWithDigit start) (after : HasIdentifierParts finish) :
    isIdentifier (start ++ base ++ finish) = true ↔ start ≠ "" ∨ ¬ BeginsWithDigit base := by
  have whole : start ++ base ≠ "" := by simp [visible]
  simp only [isIdentifier_iff, hasIdentifierParts_append, beginsWithDigit_append whole]
  by_cases empty : start = ""
  · subst empty
    simp [parts, before, after, visible]
  · simp [parts, before, after, beginsWithDigit_append empty, letter, empty]

private theorem capitalize_parts (parts : HasIdentifierParts text) : HasIdentifierParts (capitalize text) := by
  unfold capitalize HasIdentifierParts at *
  cases shape : text.toList with
  | nil => simp
  | cons first rest =>
    rw [shape, List.forall_mem_cons] at parts
    simp only [uppercaseChar_part parts.1, String.toList_ofList, List.singleton_append, List.forall_mem_cons]
    exact ⟨(part_facts parts.1).2, parts.2⟩

/-- A word before a capitalized name keeps it an identifier, whatever the name begins with. -/
theorem isIdentifier_after (word : isIdentifier start = true) (parts : HasIdentifierParts text) :
    isIdentifier (start ++ capitalize text) = true := by
  obtain ⟨visible, before, letter⟩ := isIdentifier_iff.mp word
  apply isIdentifier_iff.mpr
  rw [hasIdentifierParts_append, beginsWithDigit_append visible]
  exact ⟨by simp [visible], ⟨before, capitalize_parts parts⟩, letter⟩

end Texts

/-- Every affix can stand in an identifier, and none that goes before a name begins with a
digit. -/
structure IdentifierAffixes (style : Style) : Prop where
  parts : ∀ affix ∈ affixes style, HasIdentifierParts affix
  letters : ∀ start ∈ [style.fieldPrefix, style.staticFieldPrefix, style.parameterPrefix], ¬ BeginsWithDigit start

def fieldStart (style : Style) (isStatic : Bool) : String :=
  if isStatic then style.staticFieldPrefix else style.fieldPrefix

def fieldEnd (style : Style) (isStatic : Bool) : String :=
  if isStatic then style.staticFieldSuffix else style.fieldSuffix

theorem fieldName_eq (style : Style) (isStatic : Bool) (base : String) :
    style.fieldName isStatic base = fieldStart style isStatic ++ base ++ fieldEnd style isStatic := by
  cases isStatic <;> rfl

/-- Behind the beginning of the parameter convention the name goes on with a digit. -/
def DigitFollows (style : Style) (name : String) : Prop :=
  ∃ rest, name = style.parameterPrefix ++ rest ∧ BeginsWithDigit rest

section Bases
variable {name : String}

theorem baseName_parts (named : isIdentifier name = true) : HasIdentifierParts (style.baseName name) := by
  obtain ⟨first, last, cut⟩ := exists_cut style name
  have parts := (isIdentifier_iff.mp named).2.1
  rw [cut.whole] at parts
  simp only [hasIdentifierParts_append] at parts
  exact parts.1.2

/-- An identifier loses its first letter only to the whole beginning of the convention. -/
theorem baseName_beginsWithDigit_iff (named : isIdentifier name = true) (visible : style.baseName name ≠ "") :
    BeginsWithDigit (style.baseName name) ↔ DigitFollows style name := by
  obtain ⟨first, last, cut⟩ := exists_cut style name
  have whole := cut.whole
  rw [String.append_assoc] at whole
  constructor
  · intro digit
    obtain rfl | rfl := cut.startKind
    · have begins : BeginsWithDigit name := by
        rw [whole, String.empty_append]
        exact (beginsWithDigit_append visible).mpr digit
      exact absurd begins (isIdentifier_iff.mp named).2.2
    · exact ⟨_, whole, (beginsWithDigit_append visible).mpr digit⟩
  · intro ⟨rest, shape, digit⟩
    obtain rfl := cut.starts.mpr ⟨rest, shape⟩
    have same : rest = style.baseName name ++ last := by
      have both := shape.symm.trans whole
      simpa [← String.toList_inj] using both
    rw [same] at digit
    exact (beginsWithDigit_append visible).mp digit

/-- The parameter never loses its beginning for good. -/
theorem generatedParameter_isIdentifier (affixed : IdentifierAffixes style) (named : isIdentifier name = true)
    (visible : style.baseName name ≠ "") : isIdentifier (generatedParameter style name) = true := by
  have before := affixed.parts style.parameterPrefix (by simp [affixes])
  have after := affixed.parts style.parameterSuffix (by simp [affixes])
  have letter := affixed.letters style.parameterPrefix (by simp)
  apply (isIdentifier_around (baseName_parts named) visible before letter after).mpr
  by_cases empty : style.parameterPrefix = ""
  · right
    rw [baseName_beginsWithDigit_iff named visible]
    intro follows
    obtain ⟨rest, shape, digit⟩ := follows
    rw [empty, String.empty_append] at shape
    exact (isIdentifier_iff.mp named).2.2 (shape ▸ digit)
  · exact Or.inl empty

theorem generatedField_isIdentifier_iff (affixed : IdentifierAffixes style) (named : isIdentifier name = true)
    (visible : style.baseName name ≠ "") (isStatic : Bool) :
    isIdentifier (generatedField style isStatic name) = true ↔
      fieldStart style isStatic ≠ "" ∨ ¬ DigitFollows style name := by
  have before : HasIdentifierParts (fieldStart style isStatic) := by
    cases isStatic <;> exact affixed.parts _ (by simp [affixes, fieldStart])
  have after : HasIdentifierParts (fieldEnd style isStatic) := by
    cases isStatic <;> exact affixed.parts _ (by simp [affixes, fieldEnd])
  have letter : ¬ BeginsWithDigit (fieldStart style isStatic) := by
    cases isStatic <;> exact affixed.letters _ (by simp [fieldStart])
  rw [generatedField, fieldName_eq, isIdentifier_around (baseName_parts named) visible before letter after,
    baseName_beginsWithDigit_iff named visible]

end Bases

structure NamesOf (style : Style) (spec : FieldSpec) (member : Member) : Prop where
  parameter : isIdentifier member.parameterName = true
  getter : isIdentifier member.getterName = true
  setter : isIdentifier member.setterName = true
  field : isIdentifier member.fieldName = true ↔ fieldStart style spec.parameter.isStatic ≠ "" ∨
    ∀ name, spec.parameter.name = some name → ¬ DigitFollows style name

theorem resolve_namesOf {spec : FieldSpec} {member : Member} (affixed : IdentifierAffixes style)
    (named : ∀ name, spec.parameter.name = some name → isIdentifier name = true)
    (resolved : Member.resolve style spec = .ok member) : NamesOf style spec member := by
  obtain ⟨name, given, visible, field, parameter, capitalized⟩ := resolve_names resolved
  have good := named name given
  refine ⟨?_, ?_, ?_, ?_⟩
  · rw [parameter]
    exact generatedParameter_isIdentifier affixed good visible
  · rw [Member.getterName, capitalized]
    apply isIdentifier_after _ (baseName_parts good)
    cases member.isBoolean <;> decide
  · rw [Member.setterName, capitalized]
    exact isIdentifier_after (by decide) (baseName_parts good)
  · rw [field, generatedField_isIdentifier_iff affixed good visible]
    simp [given]

/-- Where affixes and names are made for identifiers, all names of a rendered class are
identifiers apart from the fields without a beginning of their own whose parameters go on
with a digit behind the convention. -/
theorem fields_are_identifiers_iff {draft : Draft} {model : ClassModel} (settled : draft.classModel = .ok model)
    (styled : draft.style = some style) (affixed : IdentifierAffixes style)
    (named : ∀ spec ∈ draft.fields, ∀ name, spec.parameter.name = some name → isIdentifier name = true) :
    draft.render = .ok model.text ∧ List.Forall₂ (NamesOf style) draft.fields model.members := by
  obtain ⟨other, same, -, -, -, resolved⟩ := classModel_eq_ok_iff.mp settled
  obtain rfl := Option.some.inj (styled.symm.trans same)
  refine ⟨by rw [Draft.render, settled]; rfl, ?_⟩
  have each := (List.forall₂_and_left ..).mpr ⟨named, mapM_ok_iff.mp resolved⟩
  apply each.imp
  intro spec member both
  exact resolve_namesOf affixed both.1 both.2

/-- The field with a beginning of its own is an identifier, the static one without is not. -/
theorem numbered_parameters_are_named :
    let style : Style := { parameterPrefix := "p", fieldPrefix := "m" }
    let numbered : FieldSpec := { parameter := { name := "p1", typeText := "int" } }
    let fixed : FieldSpec := { parameter := { name := "p2", typeText := "int", modifiers := .ofList ["static"] } }
    let draft : Draft := { className := "P", packageName := "", style := some style, fields := [numbered, fixed] }
    IdentifierAffixes style ∧ (∀ spec ∈ draft.fields, ∀ name, spec.parameter.name = some name → isIdentifier name = true) ∧
      ∃ first second, draft.classModel.map (·.members) = .ok [first, second] ∧
        NamesOf style numbered first ∧ isIdentifier first.fieldName = true ∧
        NamesOf style fixed second ∧ isIdentifier second.fieldName = false := by
  intro style numbered fixed draft
  let member (field parameter capitalized : String) : Member :=
    { fieldName := field, parameterName := parameter, capitalizedName := capitalized, declarationType := "int",
      storageType := "int", isBoolean := false, annotations := "", documentation := none,
      finalParameter := false, setterRequired := false }
  let model : ClassModel :=
    { packageName := "", className := "P", typeParameters := [], members := [member "m1" "p1" "1", member "2" "p2" "2"] }
  have settled : draft.classModel = .ok model := by decide
  have affixed : IdentifierAffixes style := ⟨by decide, by decide⟩
  have named : ∀ spec ∈ draft.fields, ∀ name, spec.parameter.name = some name → isIdentifier name = true := by
    simp +decide [draft, numbered, fixed]
  obtain ⟨-, pairs⟩ := fields_are_identifiers_iff settled rfl affixed named
  obtain ⟨first, rest⟩ := List.forall₂_cons.mp pairs
  obtain ⟨second, -⟩ := List.forall₂_cons.mp rest
  exact ⟨affixed, named, _, _, by rw [settled]; rfl, first, first.field.mpr (Or.inl (by decide)), second, by decide⟩

/-- With the parameter convention off and no beginning of its own, the field of `p1` is
called `1`, and the class is rendered with it. -/
theorem numbered_parameter_leaves_digit :
    let style : Style := { parameterPrefix := "p" }
    let draft : Draft :=
      { className := "P", packageName := "", style := some style
        fields := [{ parameter := { name := "p1", typeText := "int" } }] }
    IdentifierAffixes style ∧ (∀ spec ∈ draft.fields, ∀ name, spec.parameter.name = some name → isIdentifier name = true) ∧
      ∃ member, draft.classModel.map (·.members) = .ok [member] ∧ member.fieldName = "1" ∧
        isIdentifier member.fieldName = false ∧ member.fieldLine = "\tprivate final int 1;" := by
  intro style draft
  let member : Member :=
    { fieldName := "1", parameterName := "p1", capitalizedName := "1", declarationType := "int",
      storageType := "int", isBoolean := false, annotations := "", documentation := none,
      finalParameter := false, setterRequired := false }
  have named : ∀ spec ∈ draft.fields, ∀ name, spec.parameter.name = some name → isIdentifier name = true := by
    simp +decide [draft]
  exact ⟨⟨by decide, by decide⟩, named, member, by decide, rfl, by decide, by decide⟩

end ParamBundle.Proofs.GeneratedIdentifiers
