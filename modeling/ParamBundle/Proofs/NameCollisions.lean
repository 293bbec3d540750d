import ParamBundle.Proofs.Regeneration

/-! Which names are told apart once they are generated. What is taken off a name is told by
the name alone, so the base name is all that the generated names keep of it: two parameters
share their names exactly when they share their base name, and at most four names do. -/

namespace ParamBundle.Proofs.NameCollisions
open Regeneration RenderFaults Text TypeTexts

section Affixes
variable {α : Type} [DecidableEq α]

theorem dropStart?_cuts (affix text : List α) :
    ∃ start, text = start ++ (dropStart? affix text).getD text ∧ (start = [] ∨ start = affix) ∧
      (start = affix ↔ affix <+: text) := by
  cases found : dropStart? affix text with
  | some rest =>
    have shape := dropStart?_eq_some_iff.mp found
    refine ⟨affix, shape, Or.inr rfl, ?_⟩
    exact iff_of_true rfl ⟨rest, shape.symm⟩
  | none =>
    have foreign : ¬ affix <+: text := by
      intro ⟨rest, shape⟩
      rw [dropStart?_eq_some_iff.mpr shape.symm] at found
      cases found
    refine ⟨[], rfl, Or.inl rfl, iff_of_false ?_ foreign⟩
    intro empty
    exact foreign (empty ▸ List.nil_prefix)

theorem dropEnd?_cuts (affix text : List α) :
    ∃ finish, text = (dropEnd? affix text).getD text ++ finish ∧ (finish = [] ∨ finish = affix) ∧
      (finish = affix ↔ affix <:+ text) := by
  cases found : dropEnd? affix text with
  | some rest =>
    have shape := dropEnd?_eq_some_iff.mp found
    refine ⟨affix, shape, Or.inr rfl, ?_⟩
    exact iff_of_true rfl ⟨rest, shape.symm⟩
  | none =>
    have foreign : ¬ affix <:+ text := by
      intro ⟨rest, shape⟩
      rw [dropEnd?_eq_some_iff.mpr shape.symm] at found
      cases found
    refine ⟨[], by simp, Or.inl rfl, iff_of_false ?_ foreign⟩
    intro empty
    exact foreign (empty ▸ List.nil_suffix)

end Affixes

/-- The two pieces that are taken off a name. Each is there exactly when the name carries
it, and the end is looked for in what the beginning has left, so they share no character. -/
structure Cut (style : Style) (name start finish : String) : Prop where
  whole : name = start ++ style.baseName name ++ finish
  startKind : start = "" ∨ start = style.parameterPrefix
  finishKind : finish = "" ∨ finish = style.parameterSuffix
  starts : start = style.parameterPrefix ↔ ∃ rest, name = style.parameterPrefix ++ rest
  finishes : finish = style.parameterSuffix ↔ ∃ rest, style.baseName name ++ finish = rest ++ style.parameterSuffix

theorem exists_cut (style : Style) (name : String) : ∃ start finish, Cut style name start finish := by
  obtain ⟨start, begun, startKind, starts⟩ := dropStart?_cuts style.parameterPrefix.toList name.toList
  obtain ⟨finish, ended, finishKind, finishes⟩ := dropEnd?_cuts style.parameterSuffix.toList
    ((dropStart? style.parameterPrefix.toList name.toList).getD name.toList)
  have base : (style.baseName name).toList = Style.stripAffixes style.parameterPrefix.toList
      style.parameterSuffix.toList name.toList := String.toList_ofList
  have middle : (dropStart? style.parameterPrefix.toList name.toList).getD name.toList =
      (style.baseName name).toList ++ finish := by
    rw [base]
    exact ended
  rw [middle] at begun finishes
  refine ⟨String.ofList start, String.ofList finish, ?_, ?_, ?_, ?_, ?_⟩
  · simpa [← String.toList_inj] using begun
  · simpa [← String.toList_inj] using startKind
  · simpa [← String.toList_inj] using finishKind
  · rw [← String.toList_inj, String.toList_ofList, starts]
    constructor
    · intro ⟨rest, shape⟩
      exact ⟨String.ofList rest, by simp [← String.toList_inj, shape]⟩
    · intro ⟨rest, shape⟩
      exact ⟨rest.toList, by simp [shape]⟩
  · rw [← String.toList_inj, String.toList_ofList, finishes]
    constructor
    · intro ⟨rest, shape⟩
      exact ⟨String.ofList rest, by simp [← String.toList_inj, shape]⟩
    · intro ⟨rest, shape⟩
      exact ⟨rest.toList, by simpa [← String.toList_inj] using shape.symm⟩

/-- The names of which the base name may be left. -/
def spellings (style : Style) (base : String) : List String :=
  [base, style.parameterPrefix ++ base, base ++ style.parameterSuffix, style.parameterName base]

private theorem mem_spellings (style : Style) (name : String) : name ∈ spellings style (style.baseName name) := by
  obtain ⟨start, finish, cut⟩ := exists_cut style name
  have whole := cut.whole
  simp only [spellings, Style.parameterName, List.mem_cons, List.not_mem_nil, or_false]
  rcases cut.startKind with rfl | rfl <;> rcases cut.finishKind with rfl | rfl
  · exact Or.inl (by simpa using whole)
  · exact Or.inr (Or.inr (Or.inl (by simpa using whole)))
  · exact Or.inr (Or.inl (by simpa using whole))
  · exact Or.inr (Or.inr (Or.inr whole))

def generatedField (style : Style) (isStatic : Bool) (name : String) : String :=
  style.fieldName isStatic (style.baseName name)

def generatedParameter (style : Style) (name : String) : String := style.parameterName (style.baseName name)

theorem resolve_names {style : Style} {spec : FieldSpec} {member : Member}
    (resolved : Member.resolve style spec = .ok member) :
    ∃ name, spec.parameter.name = some name ∧ style.baseName name ≠ "" ∧
      member.fieldName = generatedField style spec.parameter.isStatic name ∧
      member.parameterName = generatedParameter style name ∧
      member.capitalizedName = capitalize (style.baseName name) := by
  obtain ⟨base, _, _, named, -, -, rfl⟩ := resolve_ok_iff.mp resolved
  obtain ⟨name, given, rfl, visible⟩ := name_of_baseName named
  exact ⟨name, given, visible, rfl, rfl, rfl⟩

theorem fieldName_inj {style : Style} {isStatic : Bool} {first second : String} :
    style.fieldName isStatic first = style.fieldName isStatic second ↔ first = second := by
  cases isStatic <;> simp [Style.fieldName, ← String.toList_inj]

theorem parameterName_inj {style : Style} {first second : String} :
    style.parameterName first = style.parameterName second ↔ first = second := by
  simp [Style.parameterName, ← String.toList_inj]

structure TellsApart (style : Style) : Prop where
  cut : ∀ name, ∃ start finish, Cut style name start finish
  members : ∀ spec member, Member.resolve style spec = .ok member → ∃ name, spec.parameter.name = some name ∧
    member.fieldName = generatedField style spec.parameter.isStatic name ∧
    member.parameterName = generatedParameter style name
  fields : ∀ isStatic first second, generatedField style isStatic first = generatedField style isStatic second ↔
    generatedParameter style first = generatedParameter style second
  parameters : ∀ first second, generatedParameter style first = generatedParameter style second ↔
    style.baseName first = style.baseName second
  shared : ∀ first second base, style.baseName first = base → style.baseName second = base →
    first ∈ spellings style base ∧ second ∈ spellings style base
  conventional : ∀ isStatic first second, style.parameterName first ≠ style.parameterName second →
    generatedField style isStatic (style.parameterName first) ≠
      generatedField style isStatic (style.parameterName second) ∧
    generatedParameter style (style.parameterName first) ≠ generatedParameter style (style.parameterName second)

/-- Generated names collide exactly where base names do. Whatever the affixes are, the names
that share a base name differ only in carrying them, so names that all carry both never
collide. -/
theorem generated_names_collide_iff (style : Style) : TellsApart style := by
  refine ⟨exists_cut style, ?_, ?_, fun _ _ => parameterName_inj, ?_, ?_⟩
  · intro spec member resolved
    obtain ⟨name, given, -, field, parameter, -⟩ := resolve_names resolved
    exact ⟨name, given, field, parameter⟩
  · intro isStatic first second
    rw [generatedField, generatedField, fieldName_inj, generatedParameter, generatedParameter, parameterName_inj]
  · intro first second base one other
    exact ⟨one ▸ mem_spellings style first, other ▸ mem_spellings style second⟩
  · intro isStatic first second different
    simp only [generatedField, generatedParameter, baseName_parameterName, ne_eq, fieldName_inj]
    exact ⟨fun same => different (congrArg style.parameterName same), different⟩

/-- With one and the same character before and after, a lone affix may be taken for either. -/
theorem lone_affixes_collide :
    let style : Style := { parameterPrefix := "x", parameterSuffix := "x", fieldPrefix := "m_" }
    (∃ start finish, Cut style "xa" start finish) ∧ style.baseName "xa" = "a" ∧ style.baseName "ax" = "a" ∧
      generatedField style false "xa" = generatedField style false "ax" ∧
      "xa" ∈ spellings style "a" ∧ "ax" ∈ spellings style "a" ∧
      style.parameterName "a" ≠ style.parameterName "b" ∧
      generatedField style false (style.parameterName "a") ≠ generatedField style false (style.parameterName "b") := by
  intro style
  have tells := generated_names_collide_iff style
  have first : style.baseName "xa" = "a" := by decide
  have second : style.baseName "ax" = "a" := by decide
  have same := (tells.parameters "xa" "ax").mpr (first.trans second.symm)
  obtain ⟨one, other⟩ := tells.shared "xa" "ax" "a" first second
  have different : style.parameterName "a" ≠ style.parameterName "b" := by decide
  exact ⟨tells.cut "xa", first, second, (tells.fields false "xa" "ax").mpr same, one, other, different,
    (tells.conventional false "a" "b" different).1⟩

end ParamBundle.Proofs.NameCollisions
