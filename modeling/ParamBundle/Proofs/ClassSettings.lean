import ParamBundle.Descriptor.Basic
import ParamBundle.Proofs.Traversal

/-! What the settings of a class must be. A descriptor becomes a class exactly when every
setting is accepted, and the class then shows what was set. -/

namespace ParamBundle.Proofs.ClassSettings
open Draft Traversal

variable {draft next : Draft} {descriptor : Descriptor} {model : ClassModel}
  {value className packageName : Json} {fault : Fault}

/-- The empty package is the default one. -/
def IsPackage (package : String) : Prop := package = "" ∨ isDottedIdentifier package

theorem setClassName_ok_iff : draft.setClassName value = .ok next ↔
    ∃ name, value = .string name ∧ isIdentifier name ∧ next = { draft with className := some name } := by
  constructor
  · intro done
    unfold Draft.setClassName at done
    split at done
    next name =>
      split at done
      next good =>
        cases done
        exact ⟨name, rfl, good, rfl⟩
      · cases done
    · cases done
  · rintro ⟨name, rfl, good, rfl⟩
    exact if_pos good

theorem setPackageName_ok_iff : draft.setPackageName value = .ok next ↔
    ∃ package, value = .string package ∧ IsPackage package ∧
      next = { draft with packageName := some package } := by
  have same (package : String) : (package.isEmpty || isDottedIdentifier package) = true ↔ IsPackage package := by
    simp [IsPackage]
  constructor
  · intro done
    unfold Draft.setPackageName at done
    split at done
    next package =>
      split at done
      next good =>
        cases done
        exact ⟨package, rfl, (same package).mp good, rfl⟩
      · cases done
    · cases done
  · rintro ⟨package, rfl, good, rfl⟩
    exact if_pos ((same package).mpr good)

/-- A text that names nothing and a value that is no text are shown alike. -/
theorem setClassName_error_iff : draft.setClassName value = .error fault ↔
    (¬ ∃ name, value = .string name ∧ isIdentifier name) ∧ fault = .configuration (.invalidClassName value.display) := by
  cases value with
  | string name =>
    by_cases good : isIdentifier name = true <;> simp [Draft.setClassName, Json.display, good, @eq_comm _ fault]
  | _ => simp [Draft.setClassName, @eq_comm _ fault]

def packageFault : Json → ConfigurationFault
  | .string package => .invalidPackageName package
  | _ => .packageNameNotText

theorem setPackageName_error_iff : draft.setPackageName value = .error fault ↔
    (¬ ∃ package, value = .string package ∧ IsPackage package) ∧ fault = .configuration (packageFault value) := by
  cases value with
  | string package =>
    by_cases good : package = "" ∨ isDottedIdentifier package = true <;>
      simp [Draft.setPackageName, IsPackage, packageFault, good, @eq_comm _ fault]
  | _ => simp [Draft.setPackageName, packageFault, @eq_comm _ fault]

/-- What a value offers as type parameters: a text its characters, an object its keys. -/
def offered? : Json → Option (List String)
  | .string text => some (text.toList.map String.singleton)
  | .object members => some (members.map (·.1))
  | value => value.strings?

theorem mapM_string?_eq_some_iff {items : List Json} {texts : List String} :
    items.mapM Json.string? = some texts ↔ items = texts.map .string := by
  induction items generalizing texts with
  | nil => cases texts <;> simp
  | cons item rest ih =>
    simp only [List.mapM_cons, Option.bind_eq_bind, Option.bind_eq_some_iff, ih]
    constructor
    · rintro ⟨text, read, others, rfl, same⟩
      cases same
      cases item <;> cases read
      rfl
    · intro shape
      cases texts with
      | nil => cases shape
      | cons text others =>
        cases shape
        exact ⟨text, rfl, others, rfl, rfl⟩

private theorem map_string_inj {texts others : List String} :
    texts.map Json.string = others.map Json.string ↔ texts = others :=
  (List.map_injective_iff.mpr fun _ _ same => Json.string.inj same).eq_iff

theorem offered?_eq_some_iff {texts : List String} :
    offered? value = some texts ↔ itemsOf value = .ok (texts.map .string) := by
  cases value with
  | array items => simp [offered?, Json.strings?, itemsOf, mapM_string?_eq_some_iff]
  | string text =>
    have items : itemsOf (.string text) = .ok ((text.toList.map String.singleton).map .string) := by simp [itemsOf]
    simp only [offered?, items, Option.some.injEq, Except.ok.injEq, map_string_inj]
  | object members =>
    have items : itemsOf (.object members) = .ok ((members.map (·.1)).map .string) := by simp [itemsOf]
    simp only [offered?, items, Option.some.injEq, Except.ok.injEq, map_string_inj]
  | _ => simp [offered?, Json.strings?, itemsOf]

private theorem offered?_texts (texts : List String) : offered? (.array (texts.map .string)) = some texts :=
  offered?_eq_some_iff.mpr rfl

/-- Every item must be a text that shows something. -/
theorem mapM_typeParameter?_eq_some_iff {items : List Json} {texts : List String} :
    items.mapM typeParameter? = some texts ↔
      items = texts.map .string ∧ ∀ text ∈ texts, Text.isBlank text = false := by
  have each (item : Json) (text : String) :
      typeParameter? item = some text ↔ item = .string text ∧ Text.isBlank text = false := by
    cases item <;> simp [typeParameter?]
    grind
  induction items generalizing texts with
  | nil => cases texts <;> simp
  | cons item rest ih =>
    simp only [List.mapM_cons, Option.bind_eq_bind, Option.bind_eq_some_iff, ih, each]
    constructor
    · rintro ⟨text, ⟨rfl, visible⟩, others, ⟨rfl, rest⟩, same⟩
      cases same
      exact ⟨rfl, List.forall_mem_cons.mpr ⟨visible, rest⟩⟩
    · rintro ⟨shape, visible⟩
      cases texts with
      | nil => cases shape
      | cons text others =>
        cases shape
        obtain ⟨first, rest⟩ := List.forall_mem_cons.mp visible
        exact ⟨text, ⟨rfl, first⟩, others, ⟨rfl, rest⟩, rfl⟩

/-- Type parameters are kept as they are, or refused together. -/
theorem setTypeParameters_ok_iff : draft.setTypeParameters value = .ok next ↔
    ∃ texts, offered? value = some texts ∧ (∀ text ∈ texts, Text.isBlank text = false) ∧
      next = { draft with typeParameters := texts } := by
  simp only [setTypeParameters, bind_ok_iff]
  constructor
  · rintro ⟨items, offers, done⟩
    split at done
    next texts read =>
      cases done
      obtain ⟨rfl, visible⟩ := mapM_typeParameter?_eq_some_iff.mp read
      exact ⟨texts, offered?_eq_some_iff.mpr offers, visible, rfl⟩
    · cases done
  · rintro ⟨texts, offers, visible, rfl⟩
    refine ⟨_, offered?_eq_some_iff.mp offers, ?_⟩
    rw [mapM_typeParameter?_eq_some_iff.mpr ⟨rfl, visible⟩]
    rfl

theorem setTypeParameters_error_iff {texts : List String} :
    draft.setTypeParameters (.array (texts.map .string)) = .error fault ↔
      (∃ text ∈ texts, Text.isBlank text = true) ∧ fault = .configuration .blankTypeParameter := by
  simp only [setTypeParameters, itemsOf, bind_error_iff, reduceCtorEq, false_or, Except.ok.injEq, exists_eq_left']
  cases read : (texts.map Json.string).mapM typeParameter? with
  | some kept =>
    obtain ⟨same, visible⟩ := mapM_typeParameter?_eq_some_iff.mp read
    rw [map_string_inj] at same
    subst same
    have barred : ¬ ∃ text ∈ texts, Text.isBlank text = true := by simpa using visible
    simp [barred, pure, Except.pure]
  | none =>
    have blank : ∃ text ∈ texts, Text.isBlank text = true := by
      by_contra visible
      have kept := mapM_typeParameter?_eq_some_iff.mpr ⟨rfl, by simpa using visible⟩
      rw [read] at kept
      cases kept
    simp [blank, @eq_comm _ fault]

private theorem foldl_addField (draft : Draft) (fields : List FieldSpec) :
    fields.foldl Draft.addField draft = { draft with fields := draft.fields ++ fields } := by
  induction fields generalizing draft with
  | nil => simp
  | cons field rest ih => simp [ih, Draft.addField]

theorem draft_ok_iff : descriptor.draft className packageName = .ok draft ↔
    ∃ name package, className = .string name ∧ isIdentifier name ∧
      packageName = .string package ∧ IsPackage package ∧
      (∀ text ∈ descriptor.typeParameters, Text.isBlank text = false) ∧
      draft = {
        className := some name
        packageName := some package
        typeParameters := descriptor.typeParameters
        style := some descriptor.style
        fields := descriptor.fields } := by
  simp only [Descriptor.draft, bind_ok_iff, setClassName_ok_iff, setPackageName_ok_iff, setTypeParameters_ok_iff,
    offered?_texts, Option.some.injEq, exists_eq_left']
  constructor
  · rintro ⟨_, ⟨name, rfl, goodName, rfl⟩, _, ⟨package, rfl, goodPackage, rfl⟩, _, ⟨visible, rfl⟩, same⟩
    cases same
    exact ⟨name, package, rfl, goodName, rfl, goodPackage, visible, foldl_addField _ _⟩
  · rintro ⟨name, package, rfl, goodName, rfl, goodPackage, visible, rfl⟩
    refine ⟨_, ⟨name, rfl, goodName, rfl⟩, _, ⟨package, rfl, goodPackage, rfl⟩, _, ⟨visible, rfl⟩, ?_⟩
    exact congrArg Except.ok (foldl_addField _ _)

theorem classModel_ok_iff : descriptor.classModel className packageName = .ok model ↔
    ∃ name package members, className = .string name ∧ isIdentifier name ∧
      packageName = .string package ∧ IsPackage package ∧
      (∀ text ∈ descriptor.typeParameters, Text.isBlank text = false) ∧
      descriptor.fields.mapM (Member.resolve descriptor.style) = .ok members ∧
      model = {
        packageName := package
        className := name
        typeParameters := descriptor.typeParameters
        members } := by
  simp only [Descriptor.classModel, bind_ok_iff, draft_ok_iff]
  constructor
  · rintro ⟨_, ⟨name, package, rfl, goodName, rfl, goodPackage, visible, rfl⟩, settled⟩
    simp only [Draft.classModel, bind_ok_iff] at settled
    obtain ⟨members, resolved, same⟩ := settled
    cases same
    exact ⟨name, package, members, rfl, goodName, rfl, goodPackage, visible, resolved, rfl⟩
  · rintro ⟨name, package, members, rfl, goodName, rfl, goodPackage, visible, resolved, rfl⟩
    refine ⟨_, ⟨name, package, rfl, goodName, rfl, goodPackage, visible, rfl⟩, ?_⟩
    simp only [Draft.classModel, bind_ok_iff]
    exact ⟨members, resolved, rfl⟩

end ParamBundle.Proofs.ClassSettings
