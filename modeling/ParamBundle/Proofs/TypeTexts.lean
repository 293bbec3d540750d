import ParamBundle.TypeText
import ParamBundle.Proofs.Traversal

/-! Which types can be written, and as what. The two places where a type appears refuse
the same parameters for the same reason, so a type that can be declared can be stored. -/

namespace ParamBundle.Proofs.TypeTexts
open Text

section Affixes
variable {α : Type} [DecidableEq α]

theorem dropStart?_eq_some_iff {affix text rest : List α} :
    dropStart? affix text = some rest ↔ text = affix ++ rest := by
  induction affix generalizing text with
  | nil => simp [dropStart?]
  | cons wanted affix ih =>
    cases text with
    | nil => simp [dropStart?]
    | cons item text =>
      by_cases same : wanted = item
      · simp [dropStart?, same, ih]
      · simp [dropStart?, same, Ne.symm same]

theorem dropEnd?_eq_some_iff {affix text rest : List α} :
    dropEnd? affix text = some rest ↔ text = rest ++ affix := by
  simp only [dropEnd?, Option.map_eq_some_iff, dropStart?_eq_some_iff]
  constructor
  · rintro ⟨backwards, shape, rfl⟩
    simpa using congrArg List.reverse shape
  · rintro rfl
    exact ⟨rest.reverse, by simp, by simp⟩

end Affixes

section Trimming
variable {α : Type} {test : α → Bool}

theorem dropTrailing_idem (items : List α) : dropTrailing test (dropTrailing test items) = dropTrailing test items := by
  induction items with
  | nil => rfl
  | cons item rest ih =>
    cases kept : dropTrailing test rest with
    | nil => by_cases trailing : test item = true <;> simp [dropTrailing, kept, trailing]
    | cons first others =>
      rw [kept] at ih
      have both : dropTrailing test (item :: rest) = item :: first :: others := by rw [dropTrailing, kept]
      rw [both, dropTrailing, ih]

theorem dropTrailing_concat {item : α} (items : List α) (visible : test item = false) :
    dropTrailing test (items ++ [item]) = items ++ [item] := by
  induction items with
  | nil => simp [dropTrailing, visible]
  | cons first rest ih =>
    rw [List.cons_append, dropTrailing, ih]
    cases shape : rest ++ [item] with
    | nil => simp at shape
    | cons _ _ => rfl

theorem dropTrailing_eq_nil {items : List α} (trailing : ∀ item ∈ items, test item = true) :
    dropTrailing test items = [] := by
  induction items with
  | nil => rfl
  | cons item rest ih =>
    obtain ⟨first, others⟩ := List.forall_mem_cons.mp trailing
    rw [dropTrailing, ih others, if_pos first]

theorem dropTrailing_subset (test : α → Bool) (items : List α) : dropTrailing test items ⊆ items := by
  induction items with
  | nil => exact List.Subset.refl _
  | cons item rest ih =>
    rw [dropTrailing]
    cases kept : dropTrailing test rest with
    | nil => by_cases trailing : test item = true <;> simp [trailing]
    | cons next others =>
      rw [kept] at ih
      exact List.cons_subset_cons item ih

end Trimming

/-- The type text is a type followed by one array or ellipsis dimension, with blanks
allowed after each. -/
def ComponentOf (typeText component : String) : Prop :=
  component ≠ "" ∧ ∃ stem suffix, (suffix = "..." ∨ suffix = "[]") ∧
    trimEnd typeText = stem ++ suffix ∧ trimEnd stem = component

theorem componentBefore?_eq_some_iff {site : TypeSite} {typeText component : List Char} :
    componentBefore? site typeText = some component ↔ component ≠ [] ∧
      ∃ stem, typeText = stem ++ site.suffix.toList ∧ dropTrailing isBlankChar stem = component := by
  unfold componentBefore?
  cases found : dropEnd? site.suffix.toList typeText with
  | none =>
    simp only [reduceCtorEq, false_iff, not_and, not_exists]
    rintro - stem shape -
    rw [dropEnd?_eq_some_iff.mpr shape] at found
    cases found
  | some stem =>
    obtain rfl := dropEnd?_eq_some_iff.mp found
    cases kept : dropTrailing isBlankChar stem with
    | nil => simp_all
    | cons first others =>
      simp only [Option.some.injEq, List.append_cancel_right_eq, exists_eq_left', kept]
      constructor
      · rintro rfl
        exact ⟨List.cons_ne_nil _ _, rfl⟩
      · exact And.right

/-- No text ends with both dimensions, so the order in which they are tried is free. -/
theorem component_at_one_site {site other : TypeSite} {typeText first second : List Char}
    (one : componentBefore? site typeText = some first)
    (another : componentBefore? other typeText = some second) : site = other := by
  obtain ⟨-, stem, rfl, -⟩ := componentBefore?_eq_some_iff.mp one
  obtain ⟨-, base, same, -⟩ := componentBefore?_eq_some_iff.mp another
  have last := congrArg List.getLast? same
  cases site <;> cases other <;> simp [TypeSite.suffix] at last ⊢

theorem componentType?_eq_some_iff_site {typeText component : String} :
    componentType? typeText = some component ↔
      ∃ site, componentBefore? site (trimEnd typeText).toList = some component.toList := by
  simp only [componentType?, trimEnd, String.toList_ofList, Option.map_eq_some_iff, Option.orElse_eq_orElse,
    Option.orElse_eq_or, Option.or_eq_some_iff]
  constructor
  · rintro ⟨chars, found | ⟨-, found⟩, rfl⟩
    · exact ⟨.declaration, by simpa using found⟩
    · exact ⟨.storage, by simpa using found⟩
  · rintro ⟨site, found⟩
    refine ⟨component.toList, ?_, String.ofList_toList⟩
    cases site with
    | declaration => exact Or.inl found
    | storage =>
      refine Or.inr ⟨?_, found⟩
      cases other : componentBefore? .declaration (dropTrailing isBlankChar typeText.toList) with
      | none => rfl
      | some _ => cases component_at_one_site other found

theorem componentType?_eq_some_iff {typeText component : String} :
    componentType? typeText = some component ↔ ComponentOf typeText component := by
  simp only [componentType?_eq_some_iff_site, componentBefore?_eq_some_iff, ComponentOf]
  constructor
  · rintro ⟨site, visible, stem, shape, rest⟩
    refine ⟨by simpa using visible, String.ofList stem, site.suffix, ?_, ?_, ?_⟩
    · cases site
      · exact Or.inl rfl
      · exact Or.inr rfl
    · simpa [← String.toList_inj] using shape
    · simpa [trimEnd, ← String.toList_inj] using rest
  · rintro ⟨visible, stem, suffix, dimension, shape, rfl⟩
    obtain ⟨site, rfl⟩ : ∃ site : TypeSite, suffix = site.suffix := by
      rcases dimension with rfl | rfl
      · exact ⟨.declaration, rfl⟩
      · exact ⟨.storage, rfl⟩
    exact ⟨site, by simpa using visible, stem.toList, by simp [shape], by simp [trimEnd]⟩

theorem component_unique {typeText first second : String} (one : ComponentOf typeText first)
    (another : ComponentOf typeText second) : first = second := by
  rw [← componentType?_eq_some_iff] at one another
  exact Option.some.inj (one.symm.trans another)

def Untyped (parameter : Parameter) : Prop :=
  ∀ text, parameter.typeText = some text → isBlank text = true

theorem untyped_iff {parameter : Parameter} :
    Untyped parameter ↔ isBlank (parameter.typeText.getD "") = true := by
  cases given : parameter.typeText with
  | none => simp [Untyped, given, isBlank]
  | some text => simp [Untyped, given]

theorem componentType_ok_iff {name : Option String} {typeText component : String} :
    componentType name typeText = .ok component ↔ ComponentOf typeText component := by
  rw [← componentType?_eq_some_iff, componentType]
  cases componentType? typeText <;> simp

theorem componentType_error_iff {name : Option String} {typeText : String} {fault : Fault} :
    componentType name typeText = .error fault ↔
      (¬ ∃ component, ComponentOf typeText component) ∧ fault = .malformed name (.notArray typeText) := by
  simp only [← componentType?_eq_some_iff, componentType]
  cases componentType? typeText <;> simp [eq_comm]

variable {parameter : Parameter} {site : TypeSite}

theorem typeAt_ok_iff {text : String} :
    parameter.typeAt site = .ok text ↔ ¬ Untyped parameter ∧
      if parameter.varArgs then
        ∃ component, ComponentOf (parameter.typeText.getD "") component ∧ component ++ site.suffix = text
      else parameter.typeText.getD "" = text := by
  rw [untyped_iff, Parameter.typeAt]
  by_cases blank : isBlank (parameter.typeText.getD "") = true
  · simp [blank]
  · cases parameter.varArgs with
    | true => simp [blank, Traversal.map_ok_iff, componentType_ok_iff]
    | false => simp [blank]

/-- The fault names no place: both places refuse the same parameters. -/
theorem typeAt_error_iff {fault : Fault} :
    parameter.typeAt site = .error fault ↔
      Untyped parameter ∧ fault = .malformed parameter.name .noType ∨
      ¬ Untyped parameter ∧ parameter.varArgs = true ∧
        (¬ ∃ component, ComponentOf (parameter.typeText.getD "") component) ∧
        fault = .malformed parameter.name (.notArray (parameter.typeText.getD "")) := by
  rw [untyped_iff, Parameter.typeAt]
  by_cases blank : isBlank (parameter.typeText.getD "") = true
  · simp [blank, @eq_comm _ fault]
  · cases parameter.varArgs with
    | true => simp [blank, Traversal.map_error_iff, componentType_error_iff]
    | false => simp [blank]

theorem typeAt_ok_everywhere {other : TypeSite} {text : String} {fault : Fault}
    (accepted : parameter.typeAt site = .ok text) : parameter.typeAt other ≠ .error fault := by
  intro refused
  have here : parameter.typeAt site = .error fault := typeAt_error_iff.mpr (typeAt_error_iff.mp refused)
  rw [accepted] at here
  cases here

end ParamBundle.Proofs.TypeTexts
