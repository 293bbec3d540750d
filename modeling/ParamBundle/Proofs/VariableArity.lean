import Mathlib.Data.List.DropRight
import ParamBundle.Proofs.Regeneration

/-! Exactly which types a variable-arity parameter can have, and how they are written. The
last dimension is replaced by what the place calls for, whichever way it was given, and all
that stands before it is kept. The two places accept and refuse together. -/

namespace ParamBundle.Proofs.VariableArity
open Text TypeTexts

section Lists
variable {α : Type} {test : α → Bool}

private theorem dropTrailing_concat_trailing {item : α} (items : List α) (trailing : test item = true) :
    dropTrailing test (items ++ [item]) = dropTrailing test items := by
  induction items with
  | nil => simp [dropTrailing, trailing]
  | cons first rest ih => rw [List.cons_append, dropTrailing, dropTrailing, ih]

private theorem dropTrailing_eq_rdropWhile (items : List α) : dropTrailing test items = items.rdropWhile test := by
  induction items using List.reverseRecOn with
  | nil => rfl
  | append_singleton items item ih =>
    cases trailing : test item with
    | true => rw [dropTrailing_concat_trailing items trailing, ih, List.rdropWhile_concat_pos _ _ _ trailing]
    | false => rw [dropTrailing_concat items trailing, List.rdropWhile_concat_neg _ _ _ (by simp [trailing])]

private theorem dropTrailing_append {items dropped : List α} (trailing : ∀ item ∈ dropped, test item = true) :
    dropTrailing test (items ++ dropped) = dropTrailing test items := by
  have reversed : ∀ item ∈ dropped.reverse, test item = true :=
    fun item member => trailing item (List.mem_reverse.mp member)
  simp only [dropTrailing_eq_rdropWhile, List.rdropWhile, List.reverse_append, List.dropWhile_append_of_pos reversed]

end Lists

variable {text kept stem typeText component : String}

/-- The text is this one with blanks after it, and this one does not end with a blank. -/
def Trimmed (text kept : String) : Prop :=
  ∃ blanks, text = kept ++ blanks ∧ isBlank blanks = true ∧
    ∀ left : kept.toList ≠ [], isBlankChar (kept.toList.getLast left) = false

theorem trimmed_trimEnd (text : String) : Trimmed text (trimEnd text) := by
  rw [trimEnd, dropTrailing_eq_rdropWhile]
  refine ⟨String.ofList (text.toList.rtakeWhile isBlankChar), ?_, ?_, ?_⟩
  · rw [← String.ofList_append, List.rdropWhile_append_rtakeWhile, String.ofList_toList]
  · rw [isBlank, String.toList_ofList, List.all_eq_true]
    exact fun c member => List.mem_rtakeWhile_imp member
  · simp only [String.toList_ofList]
    exact fun left => (Bool.not_eq_true _).mp (List.rdropWhile_last_not isBlankChar text.toList left)

theorem trimmed_iff : Trimmed text kept ↔ trimEnd text = kept := by
  constructor
  · intro ⟨blanks, shape, blank, visible⟩
    have trailing : ∀ c ∈ blanks.toList, isBlankChar c = true := by simpa [isBlank] using blank
    have whole : kept.toList.rdropWhile isBlankChar = kept.toList :=
      List.rdropWhile_eq_self_iff.mpr fun left => by simp [visible left]
    rw [trimEnd, shape, String.toList_append, dropTrailing_append trailing, dropTrailing_eq_rdropWhile, whole,
      String.ofList_toList]
  · intro same
    exact same ▸ trimmed_trimEnd text

/-- A text shows something exactly when something is left of it. -/
theorem Trimmed.visible_iff (trimmed : Trimmed text kept) : isBlank text = false ↔ kept ≠ "" := by
  obtain ⟨blanks, rfl, blank, visible⟩ := trimmed
  have split : isBlank (kept ++ blanks) = isBlank kept := by
    rw [isBlank] at blank
    simp [isBlank, blank]
  rw [split]
  constructor
  · intro shown empty
    simp [empty, isBlank] at shown
  · intro present
    have left : kept.toList ≠ [] := by simpa using present
    rw [isBlank, List.all_eq_false]
    exact ⟨_, List.getLast_mem left, by simp [visible left]⟩

/-- Without the blanks at its end, the type is this text with one dimension behind it. -/
def Dimensioned (typeText stem : String) : Prop := Trimmed typeText (stem ++ "...") ∨ Trimmed typeText (stem ++ "[]")

theorem componentOf_iff :
    ComponentOf typeText component ↔ ∃ stem, Dimensioned typeText stem ∧ isBlank stem = false ∧ Trimmed stem component := by
  simp only [ComponentOf, Dimensioned, trimmed_iff]
  constructor
  · intro found
    obtain ⟨visible, stem, suffix, dimension, shape, rest⟩ := found
    have shown := (trimmed_iff.mpr rest).visible_iff.mpr visible
    obtain rfl | rfl := dimension
    · exact ⟨stem, Or.inl shape, shown, rest⟩
    · exact ⟨stem, Or.inr shape, shown, rest⟩
  · intro found
    obtain ⟨stem, dimensioned, shown, rest⟩ := found
    have visible := (trimmed_iff.mpr rest).visible_iff.mp shown
    obtain shape | shape := dimensioned
    · exact ⟨visible, stem, "...", Or.inl rfl, shape, rest⟩
    · exact ⟨visible, stem, "[]", Or.inr rfl, shape, rest⟩

theorem exists_component_iff :
    (∃ component, ComponentOf typeText component) ↔ ∃ stem, Dimensioned typeText stem ∧ isBlank stem = false := by
  simp only [componentOf_iff]
  constructor
  · intro ⟨component, stem, dimensioned, shown, _⟩
    exact ⟨stem, dimensioned, shown⟩
  · intro ⟨stem, dimensioned, shown⟩
    exact ⟨_, stem, dimensioned, shown, trimmed_trimEnd stem⟩

/-- The type is the component with one dimension behind it, and blanks around that. -/
def OneDimensionMore (typeText component : String) : Prop :=
  ∃ gap dimension blanks, typeText = component ++ (gap ++ dimension ++ blanks) ∧ isBlank gap = true ∧
    (dimension = "..." ∨ dimension = "[]") ∧ isBlank blanks = true

theorem Dimensioned.oneMore (dimensioned : Dimensioned typeText stem) (trimmed : Trimmed stem component) :
    OneDimensionMore typeText component := by
  obtain ⟨gap, rfl, blankGap, -⟩ := trimmed
  obtain ⟨blanks, rfl, blank, -⟩ | ⟨blanks, rfl, blank, -⟩ := dimensioned
  · exact ⟨gap, "...", blanks, by simp only [String.append_assoc], blankGap, Or.inl rfl, blank⟩
  · exact ⟨gap, "[]", blanks, by simp only [String.append_assoc], blankGap, Or.inr rfl, blank⟩

structure WrittenTypes (parameter : Parameter) (typeText : String) : Prop where
  alike : (∃ cause, ∀ site, parameter.typeAt site = .error (.malformed parameter.name cause)) ∨
    ∀ site, ∃ text, parameter.typeAt site = .ok text
  varied : parameter.varArgs = true → ((∀ site, ∃ text, parameter.typeAt site = .ok text) ↔
    ∃ stem, Dimensioned typeText stem ∧ isBlank stem = false)
  replaced : parameter.varArgs = true → ∀ stem component, Dimensioned typeText stem → isBlank stem = false →
    Trimmed stem component → component ≠ "" ∧ OneDimensionMore typeText component ∧
      componentType parameter.name typeText = .ok component ∧
      parameter.typeAt .declaration = .ok (component ++ "...") ∧ parameter.typeAt .storage = .ok (component ++ "[]")
  kept : parameter.varArgs = false → isBlank typeText = false → ∀ site, parameter.typeAt site = .ok typeText
  missing : parameter.varArgs = false → isBlank typeText = true →
    ∃ cause, ∀ site, parameter.typeAt site = .error (.malformed parameter.name cause)

variable {parameter : Parameter}

/-- The two places never disagree on whether a type can be written, nor on why not. -/
theorem typeAt_alike (parameter : Parameter) :
    (∃ cause, ∀ site, parameter.typeAt site = .error (.malformed parameter.name cause)) ∨
      ∀ site, ∃ text, parameter.typeAt site = .ok text := by
  cases declared : parameter.typeAt .declaration with
  | ok text =>
    right
    intro site
    cases written : parameter.typeAt site with
    | ok shown => exact ⟨shown, rfl⟩
    | error fault => exact absurd written (typeAt_ok_everywhere declared)
  | error fault =>
    left
    have refused := typeAt_error_iff.mp declared
    have named : ∃ cause, fault = .malformed parameter.name cause := by
      obtain ⟨-, shape⟩ | ⟨-, -, -, shape⟩ := refused
      · exact ⟨_, shape⟩
      · exact ⟨_, shape⟩
    obtain ⟨cause, rfl⟩ := named
    exact ⟨cause, fun site => typeAt_error_iff.mpr refused⟩

theorem typeAt_varied (given : parameter.typeText = some typeText) (varied : parameter.varArgs = true) {site : TypeSite}
    {text : String} : parameter.typeAt site = .ok text ↔
      ∃ component, ComponentOf typeText component ∧ component ++ site.suffix = text := by
  rw [typeAt_ok_iff, varied, if_pos rfl, given, Option.getD_some, and_iff_right_iff_imp]
  intro ⟨component, found, _⟩ untyped
  have blank := untyped typeText given
  rw [Regeneration.component_visible found] at blank
  cases blank

theorem typeAt_plain (given : parameter.typeText = some typeText) (single : parameter.varArgs = false) {site : TypeSite}
    {text : String} : parameter.typeAt site = .ok text ↔ isBlank typeText = false ∧ typeText = text := by
  rw [typeAt_ok_iff, untyped_iff, single, if_neg Bool.false_ne_true, given, Option.getD_some, Bool.not_eq_true]

/-- A variable-arity type can be written exactly when something stands before its last
dimension. Then that dimension alone is replaced, and every dimension before it stays. -/
theorem last_dimension_is_replaced (given : parameter.typeText = some typeText) : WrittenTypes parameter typeText := by
  refine ⟨typeAt_alike parameter, ?_, ?_, ?_, ?_⟩
  · intro varied
    rw [← exists_component_iff]
    simp only [typeAt_varied given varied]
    constructor
    · intro written
      obtain ⟨_, component, found, -⟩ := written .declaration
      exact ⟨component, found⟩
    · intro ⟨component, found⟩ site
      exact ⟨_, component, found, rfl⟩
  · intro varied stem component dimensioned shown trimmed
    have found := componentOf_iff.mpr ⟨stem, dimensioned, shown, trimmed⟩
    refine ⟨trimmed.visible_iff.mp shown, dimensioned.oneMore trimmed, componentType_ok_iff.mpr found, ?_, ?_⟩
    · exact (typeAt_varied given varied).mpr ⟨component, found, rfl⟩
    · exact (typeAt_varied given varied).mpr ⟨component, found, rfl⟩
  · intro single shown site
    exact (typeAt_plain given single).mpr ⟨shown, rfl⟩
  · intro single blank
    obtain refused | written := typeAt_alike parameter
    · exact refused
    · obtain ⟨text, accepted⟩ := written .declaration
      have shown := ((typeAt_plain given single).mp accepted).1
      rw [blank] at shown
      cases shown

/-- The inner dimension stays, and the blanks between the two are no part of it. -/
theorem spaced_ellipsis_is_replaced :
    let parameter : Parameter := { name := "rows", typeText := "x [] ... ", varArgs := true }
    Dimensioned "x [] ... " "x [] " ∧ isBlank "x [] " = false ∧ Trimmed "x [] " "x []" ∧
      parameter.typeAt .declaration = .ok "x []..." ∧ parameter.typeAt .storage = .ok "x [][]" := by
  intro parameter
  have dimensioned : Dimensioned "x [] ... " "x [] " := Or.inl (trimmed_iff.mpr (by decide))
  have trimmed : Trimmed "x [] " "x []" := trimmed_iff.mpr (by decide)
  have written : WrittenTypes parameter "x [] ... " := last_dimension_is_replaced rfl
  obtain ⟨-, -, -, declared, stored⟩ := written.replaced rfl _ _ dimensioned (by decide) trimmed
  exact ⟨dimensioned, by decide, trimmed, declared, stored⟩

end ParamBundle.Proofs.VariableArity
