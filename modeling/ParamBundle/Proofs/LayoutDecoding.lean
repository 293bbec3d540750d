import ParamBundle.ClassText
import ParamBundle.Proofs.RenderFaults

/-! Reading the members of a class back from its lines. Runs of lines are told apart by a line
that cannot belong to them or by their number; the pieces of a line by what they can begin or
end with. -/

namespace ParamBundle.Proofs.LayoutDecoding
open RenderFaults TypeTexts

section Runs
variable {α β : Type}

/-- A run of items that pass a test ends in one place only: before the first that fails. -/
theorem run_unique {test : α → Prop} {first second rest others : List α} {stop halt : α}
    (here : ∀ item ∈ first, test item) (there : ∀ item ∈ second, test item) (stops : ¬ test stop)
    (halts : ¬ test halt)
    (same : first ++ stop :: rest = second ++ halt :: others) : first = second ∧ stop :: rest = halt :: others := by
  induction first generalizing second with
  | nil =>
    cases second with
    | nil => exact ⟨rfl, same⟩
    | cons item second =>
      cases same
      exact absurd (there _ List.mem_cons_self) stops
  | cons item first ih =>
    cases second with
    | nil =>
      cases same
      exact absurd (here _ List.mem_cons_self) halts
    | cons other second =>
      obtain ⟨rfl, tail⟩ := List.cons.inj same
      obtain ⟨rfl, ends⟩ := ih (List.forall_mem_cons.mp here).2 (List.forall_mem_cons.mp there).2 tail
      exact ⟨rfl, ends⟩

theorem forall₂_with {here : α → Prop} {there : β → Prop} {related : α → β → Prop} {items : List α} {others : List β}
    (left : ∀ item ∈ items, here item) (right : ∀ other ∈ others, there other)
    (pairs : List.Forall₂ related items others) :
    List.Forall₂ (fun item other => here item ∧ there other ∧ related item other) items others := by
  induction pairs with
  | nil => exact .nil
  | cons first _ ih =>
    obtain ⟨item, items⟩ := List.forall_mem_cons.mp left
    obtain ⟨other, others⟩ := List.forall_mem_cons.mp right
    exact .cons ⟨item, other, first⟩ (ih items others)

section Widths
variable {f : α → List β} {width : Nat} {items others : List α}

theorem length_flatMap_of_width (each : ∀ item ∈ items, (f item).length = width) :
    (items.flatMap f).length = width * items.length := by
  have lengths : items.map (fun item => (f item).length) = List.replicate items.length width :=
    List.map_eq_replicate_iff.mpr each
  rw [List.length_flatMap, lengths, List.sum_replicate_nat, Nat.mul_comm]

/-- Runs of one width each need no marks between them. -/
theorem flatMap_unique (positive : 0 < width) (each : ∀ item ∈ items, (f item).length = width)
    (also : ∀ other ∈ others, (f other).length = width) (same : items.flatMap f = others.flatMap f) :
    items.map f = others.map f := by
  have count : items.length = others.length := by
    have lengths := congrArg List.length same
    rw [length_flatMap_of_width each, length_flatMap_of_width also] at lengths
    exact Nat.eq_of_mul_eq_mul_left positive lengths
  induction items generalizing others with
  | nil =>
    cases List.length_eq_zero_iff.mp count.symm
    rfl
  | cons item items ih =>
    cases others with
    | nil => cases count
    | cons other others =>
      obtain ⟨here, below⟩ := List.forall_mem_cons.mp each
      obtain ⟨there, beyond⟩ := List.forall_mem_cons.mp also
      obtain ⟨first, rest⟩ := List.append_inj same (here.trans there.symm)
      rw [List.map_cons, List.map_cons, first, ih below beyond rest (Nat.succ.inj count)]

end Widths

/-- A text that can be moved to the right by a word put before it repeats that word. So it
either stops within the word, or at its end, and what followed it then follows the word. -/
theorem shifted {word front rest moved : List α} {last : α} (present : word ≠ [])
    (same : word ++ (front ++ [last] ++ rest) = front ++ [last] ++ moved) :
    last ∈ word.dropLast ∨ word.getLast? = some last ∧ moved = word ++ rest := by
  obtain ⟨tail, shape, again⟩ | ⟨finish, shape, shows⟩ := List.append_eq_append_iff.mp same
  · obtain rfl | ⟨next, final, rfl⟩ := List.eq_nil_or_concat tail
    · rw [List.append_nil] at shape
      exact Or.inr ⟨by simp [← shape], by simpa [shape] using again.symm⟩
    · rw [List.concat_eq_append, ← List.append_assoc] at shape
      obtain ⟨rfl, ends⟩ := List.append_inj' shape rfl
      obtain rfl := List.singleton_inj.mp ends
      have shorter : next.length < (word ++ next).length := by
        have := List.length_pos_iff.mpr present
        simp only [List.length_append]
        omega
      exact shifted present (by simpa using again)
  · obtain rfl | ⟨next, final, rfl⟩ := List.eq_nil_or_concat finish
    · exact Or.inr ⟨by simp [shape], by simpa [shape] using shows⟩
    · rw [List.concat_eq_append, ← List.append_assoc] at shape
      rw [shape, List.dropLast_concat]
      exact Or.inl (by simp)
termination_by front.length

section Joined
variable {separator : String} {first second : List String}

/-- Longer texts, joined one by one, are longer together. -/
theorem length_intercalate_lt (shorter : List.Forall₂ (fun a b : String => a.length < b.length) first second)
    (some : first ≠ []) : (separator.intercalate first).length < (separator.intercalate second).length := by
  induction shorter with
  | nil => exact absurd rfl some
  | @cons a b first second here rest ih =>
    cases rest with
    | nil => simpa using here
    | cons next others =>
      have below := ih (List.cons_ne_nil _ _)
      rw [String.intercalate_cons_cons, String.intercalate_cons_cons]
      simp only [String.length_append]
      omega

/-- Items whose texts end in one place only are told apart whatever is joined to them. -/
theorem intercalate_unique {text : α → String} {related : α → α → Prop} {items others : List α}
    (each : List.Forall₂ (fun item other => ∀ rest ahead, text item ++ rest = text other ++ ahead →
      text item = text other ∧ related item other) items others)
    (same : separator.intercalate (items.map text) = separator.intercalate (others.map text)) :
    List.Forall₂ related items others := by
  induction each with
  | nil => exact .nil
  | @cons item other items others here rest ih =>
    cases rest with
    | nil =>
      obtain ⟨-, pair⟩ := here "" "" (by simpa using same)
      exact .cons pair .nil
    | @cons next another items others =>
      simp only [List.map_cons, String.intercalate_cons_cons, String.append_assoc] at same ih
      obtain ⟨first, pair⟩ := here _ _ same
      rw [first, String.append_right_inj, String.append_right_inj] at same
      exact .cons pair (ih same)

end Joined

end Runs

section Members
variable {member other : Member}

theorem fieldName_of_getterLines (same : member.getterLines = other.getterLines) :
    member.fieldName = other.fieldName := by
  simp only [Member.getterLines, List.cons.injEq, String.append_left_inj, String.append_right_inj] at same
  exact same.2.2.1

/-- An unqualified field is never taken for a qualified one: the text up to the parameter would
repeat the qualifier and could not end with a space. -/
theorem qualifier_visible {field parameter stored : String} :
    "this." ++ (field ++ " = " ++ parameter) ≠ field ++ " = " ++ stored := by
  intro same
  have chars : "this.".toList ++ (field.toList ++ [' ', '='] ++ [' '] ++ parameter.toList) =
      field.toList ++ [' ', '='] ++ [' '] ++ stored.toList := by
    simpa using congrArg String.toList same
  obtain inside | ⟨final, -⟩ := shifted (by simp) chars
  · exact absurd inside (by decide)
  · exact absurd final (by decide)

theorem assignmentLine_qualified (hidden : member.fieldName = member.parameterName) :
    member.assignmentLine = "\t\t" ++ ("this." ++ (member.fieldName ++ " = " ++ (member.parameterName ++ ";"))) := by
  simp [Member.assignmentLine, Assignment.text, Member.assignment, hidden, String.append_assoc]

theorem assignmentLine_plain (visible : member.fieldName ≠ member.parameterName) :
    member.assignmentLine = "\t\t" ++ (member.fieldName ++ " = " ++ (member.parameterName ++ ";")) := by
  simp [Member.assignmentLine, Assignment.text, Member.assignment, visible, String.append_assoc]

theorem parameterName_of_assignmentLine (field : member.fieldName = other.fieldName)
    (same : member.assignmentLine = other.assignmentLine) : member.parameterName = other.parameterName := by
  by_cases here : member.fieldName = member.parameterName
  · by_cases there : other.fieldName = other.parameterName
    · exact here.symm.trans (field.trans there)
    · rw [assignmentLine_qualified here, assignmentLine_plain there, field, String.append_right_inj] at same
      exact absurd same qualifier_visible
  · by_cases there : other.fieldName = other.parameterName
    · rw [assignmentLine_plain here, assignmentLine_qualified there, field, String.append_right_inj] at same
      exact absurd same.symm qualifier_visible
    · rw [assignmentLine_plain here, assignmentLine_plain there, field] at same
      simpa [String.append_right_inj, String.append_left_inj] using same

/-- A text that is empty or ends with a space, as annotations before a modifier do. -/
def Spaced (text : String) : Prop := text = "" ∨ ∃ stem, text = stem ++ " "

private theorem spaced_join {texts : List String} (each : ∀ text ∈ texts, Spaced text) : Spaced (String.join texts) := by
  induction texts with
  | nil => exact Or.inl rfl
  | cons text rest ih =>
    obtain ⟨first, others⟩ := List.forall_mem_cons.mp each
    rw [String.join_cons]
    obtain empty | ⟨stem, shape⟩ := ih others
    · rw [empty, String.append_empty]
      exact first
    · exact Or.inr ⟨text ++ stem, by rw [shape, String.append_assoc]⟩

theorem spaced_annotationText (parameter : Parameter) : Spaced parameter.annotationText := by
  refine spaced_join (List.forall_mem_map.mpr fun use _ => ?_)
  rw [AnnotationUse.text]
  split
  next name _ =>
    split
    · exact Or.inl rfl
    · exact Or.inr ⟨"@" ++ name ++ use.arguments, rfl⟩
  · exact Or.inl rfl

/-- What stands before both modifiers stops before either. -/
theorem before_modifiers {extra stored others got rest : List Char} (first : 'p' :: 'r' :: stored = extra ++ others)
    (second : 'p' :: 'u' :: got = extra ++ rest) : extra = [] ∨ extra = ['p'] := by
  cases extra with
  | nil => exact Or.inl rfl
  | cons c extra =>
    obtain ⟨rfl, first⟩ := List.cons.inj first
    cases extra with
    | nil => exact Or.inr rfl
    | cons d extra =>
      cases first
      cases second

private theorem spaced_prefix {first extra stored others got rest : List Char} {text : String} (spaced : Spaced text)
    (shape : text.toList = first ++ extra) (private' : 'p' :: 'r' :: stored = extra ++ others)
    (public' : 'p' :: 'u' :: got = extra ++ rest) : extra = [] := by
  obtain rfl | rfl := before_modifiers private' public'
  · rfl
  · obtain rfl | ⟨stem, rfl⟩ := spaced
    · simp at shape
    · have last := congrArg List.getLast? shape
      simp at last

theorem spaced_unique {first second stored others got rest : String} (spaced : Spaced first) (also : Spaced second)
    (field : first ++ ("private " ++ stored) = second ++ ("private " ++ others))
    (getter : first ++ ("public " ++ got) = second ++ ("public " ++ rest)) : first = second := by
  have field := congrArg String.toList field
  have getter := congrArg String.toList getter
  simp only [String.toList_append] at field getter
  obtain ⟨extra, shape, follows⟩ | ⟨extra, shape, follows⟩ := List.append_eq_append_iff.mp field
  · rw [shape, List.append_assoc, List.append_cancel_left_eq] at getter
    have none := spaced_prefix also shape follows getter
    rw [none, List.append_nil] at shape
    exact (String.toList_inj.mp shape).symm
  · rw [shape, List.append_assoc, List.append_cancel_left_eq] at getter
    have none := spaced_prefix spaced shape follows getter.symm
    rw [none, List.append_nil] at shape
    exact String.toList_inj.mp shape

theorem fieldLine_eq (member : Member) :
    member.fieldLine = "\t" ++ (member.annotations ++ ("private " ++ (if member.setterRequired then "" else "final ") ++
      member.storageType)) ++ (" " ++ member.fieldName ++ ";") := by
  cases given : member.setterRequired <;> simp [Member.fieldLine, given, String.append_assoc]

private theorem getterLines_eq (member : Member) :
    member.getterLines = ["",
      "\t" ++ (member.annotations ++ ("public " ++ (member.storageType ++ " " ++ member.getterName))) ++ "()\x7b",
      "\t\treturn " ++ member.fieldName ++ ";", "\t\x7d"] := by
  simp [Member.getterLines, String.append_assoc]

private theorem getterName_not_final (member : Member) (name : String) : member.getterName ≠ "final " ++ name := by
  intro same
  have first := congrArg (·.toList.head?) same
  simp only [Member.getterName] at first
  split at first <;> simp at first

/-- A type cannot gain the modifier that a setter takes away: the getter shows the type alone. -/
theorem final_visible {storageType name : String} (member : Member) :
    "final " ++ storageType ++ " " ++ name ≠ storageType ++ " " ++ member.getterName := by
  intro same
  have chars : "final ".toList ++ (storageType.toList ++ [' '] ++ name.toList) =
      storageType.toList ++ [' '] ++ member.getterName.toList := by
    simpa using congrArg String.toList same
  obtain inside | ⟨-, moved⟩ := shifted (by simp) chars
  · exact absurd inside (by decide)
  · exact getterName_not_final member name (by simpa [← String.toList_inj] using moved)

private theorem getterName_unique (same : member.getterName = other.getterName) :
    member.isBoolean = other.isBoolean ∧ member.capitalizedName = other.capitalizedName := by
  cases here : member.isBoolean <;> cases there : other.isBoolean
  all_goals simp only [Member.getterName, here, there] at same
  · exact ⟨rfl, by simpa [String.append_right_inj] using same⟩
  · exact absurd (congrArg (·.toList.head?) same) (by simp)
  · exact absurd (congrArg (·.toList.head?) same) (by simp)
  · exact ⟨rfl, by simpa [String.append_right_inj] using same⟩

structure SameField (member other : Member) : Prop where
  fieldName : member.fieldName = other.fieldName
  annotations : member.annotations = other.annotations
  setterRequired : member.setterRequired = other.setterRequired
  storageType : member.storageType = other.storageType
  isBoolean : member.isBoolean = other.isBoolean
  capitalizedName : member.capitalizedName = other.capitalizedName

theorem sameField_of_lines (spaced : Spaced member.annotations) (also : Spaced other.annotations)
    (field : member.fieldLine = other.fieldLine) (getter : member.getterLines = other.getterLines) :
    SameField member other := by
  have name := fieldName_of_getterLines getter
  rw [fieldLine_eq, fieldLine_eq, name, String.append_left_inj, String.append_right_inj] at field
  simp only [getterLines_eq, List.cons.injEq, String.append_left_inj, String.append_right_inj] at getter
  have shown := getter.2.1
  simp only [String.append_assoc] at field
  have annotations := spaced_unique spaced also field shown
  rw [annotations, String.append_right_inj, String.append_right_inj] at field shown
  have typed : member.setterRequired = other.setterRequired ∧ member.storageType = other.storageType := by
    cases here : member.setterRequired <;> cases there : other.setterRequired
    all_goals simp only [here, there] at field
    · exact ⟨rfl, by simpa [String.append_right_inj] using field⟩
    · have longer : other.storageType = "final " ++ member.storageType := by simpa using field.symm
      rw [longer] at shown
      exact absurd shown.symm (final_visible member)
    · have longer : member.storageType = "final " ++ other.storageType := by simpa using field
      rw [longer] at shown
      exact absurd shown (final_visible other)
    · exact ⟨rfl, by simpa using field⟩
  obtain ⟨setterRequired, storageType⟩ := typed
  rw [storageType, String.append_right_inj] at shown
  obtain ⟨isBoolean, capitalizedName⟩ := getterName_unique shown
  exact ⟨name, annotations, setterRequired, storageType, isBoolean, capitalizedName⟩

def FieldLike (line : String) : Prop := ∃ before declared, line = "\t" ++ before ++ "private " ++ declared ++ ";"

private theorem fieldLike_fieldLine (member : Member) : FieldLike member.fieldLine :=
  ⟨member.annotations, (if member.setterRequired then "" else "final ") ++ member.storageType ++ " " ++ member.fieldName,
    by simp [fieldLine_eq, String.append_assoc]⟩

/-- Documentation that cannot pass for a field. -/
def Distinct (member : Member) : Prop := ∀ line ∈ member.documentationLines, ¬ FieldLike line

theorem fieldLines_unique {members others : List Member} (distinct : ∀ member ∈ members, Distinct member)
    (also : ∀ other ∈ others, Distinct other) (same : members.flatMap (·.fieldLines) = others.flatMap (·.fieldLines)) :
    List.Forall₂ (fun member other => member.documentationLines = other.documentationLines ∧
      member.fieldLine = other.fieldLine) members others := by
  induction members generalizing others with
  | nil =>
    cases others with
    | nil => exact .nil
    | cons other others => simp [Member.fieldLines] at same
  | cons member members ih =>
    cases others with
    | nil => simp [Member.fieldLines] at same
    | cons other others =>
      obtain ⟨here, below⟩ := List.forall_mem_cons.mp distinct
      obtain ⟨there, beyond⟩ := List.forall_mem_cons.mp also
      simp only [List.flatMap_cons, Member.fieldLines, List.append_assoc, List.singleton_append] at same
      obtain ⟨documented, follows⟩ := run_unique here there (not_not.mpr (fieldLike_fieldLine member))
        (not_not.mpr (fieldLike_fieldLine other)) same
      obtain ⟨declared, rest⟩ := List.cons.inj follows
      exact .cons ⟨documented, declared⟩ (ih below beyond rest)

/-- A type is declared as it is stored, or its last dimension is an ellipsis. -/
def Declares (declared stored : String) : Prop :=
  declared = stored ∨ ∃ component, declared = component ++ "..." ∧ stored = component ++ "[]"

private theorem declares_unique {stored first second rest others : String} (one : Declares first stored)
    (another : Declares second stored) (same : first ++ rest = second ++ others) : first = second := by
  have dimensions (rest others : String) : "[]" ++ rest ≠ "..." ++ others := by
    intro same
    simpa using congrArg (·.toList.head?) same
  obtain rfl | ⟨component, rfl, rfl⟩ := one
  · obtain rfl | ⟨component, rfl, rfl⟩ := another
    · rfl
    · simp only [String.append_assoc, String.append_right_inj] at same
      exact absurd same (dimensions _ _)
  · obtain rfl | ⟨component', rfl, shape⟩ := another
    · simp only [String.append_assoc, String.append_right_inj] at same
      exact absurd same.symm (dimensions _ _)
    · rw [(String.append_left_inj _).mp shape]

theorem Declares.length {declared stored : String} (declares : Declares declared stored) :
    stored.length ≤ declared.length ∧ declared.length ≤ stored.length + 1 := by
  obtain rfl | ⟨component, rfl, rfl⟩ := declares
  · omega
  · have dimensions : "...".length = "[]".length + 1 := by decide
    simp only [String.length_append, dimensions]
    omega

theorem declares_typeAt {parameter : Parameter} {declared stored : String}
    (declaration : parameter.typeAt .declaration = .ok declared) (storage : parameter.typeAt .storage = .ok stored) :
    Declares declared stored := by
  obtain ⟨-, declaration⟩ := typeAt_ok_iff.mp declaration
  obtain ⟨-, storage⟩ := typeAt_ok_iff.mp storage
  cases varied : parameter.varArgs with
  | false =>
    rw [varied] at declaration storage
    exact Or.inl (declaration.symm.trans storage)
  | true =>
    rw [varied] at declaration storage
    obtain ⟨component, found, rfl⟩ := declaration
    obtain ⟨again, same, rfl⟩ := storage
    obtain rfl := component_unique found same
    exact Or.inr ⟨component, rfl, rfl⟩

structure SameParameter (member other : Member) : Prop where
  annotations : member.annotations = other.annotations
  storageType : member.storageType = other.storageType
  parameterName : member.parameterName = other.parameterName

private theorem declaration_eq (member : Member) :
    member.declaration = member.annotations ++ ((if member.finalParameter then "final " else "") ++
      (member.declarationType ++ (" " ++ member.parameterName))) := by
  simp [Member.declaration, String.append_assoc]

theorem declaration_unique (same : SameParameter member other) (final : member.finalParameter = other.finalParameter)
    (declares : Declares member.declarationType member.storageType)
    (also : Declares other.declarationType other.storageType) {rest others : String}
    (shown : member.declaration ++ rest = other.declaration ++ others) :
    member.declaration = other.declaration ∧ member.declarationType = other.declarationType := by
  rw [declaration_eq, declaration_eq, same.annotations, final] at shown ⊢
  simp only [String.append_assoc, String.append_right_inj] at shown
  rw [same.storageType] at declares
  have type := declares_unique declares also shown
  exact ⟨by rw [type, same.parameterName], type⟩

/-- The modifier is longer than the most by which a type can differ from its stored form. -/
theorem declaration_shorter (same : SameParameter member other) (plain : member.finalParameter = false)
    (final : other.finalParameter = true) (declares : Declares member.declarationType member.storageType)
    (also : Declares other.declarationType other.storageType) : member.declaration.length < other.declaration.length := by
  have modifier : "final ".length = 6 := by decide
  have most := declares.length
  have least := also.length
  rw [same.storageType] at most
  simp only [declaration_eq, plain, final, same.annotations, same.parameterName, String.length_append, if_true, modifier,
    Bool.false_eq_true, if_false, String.length_empty]
  omega

/-- A member as its declaration needs it. The modifier is one for all members of a class. -/
def Declared (final : Bool) (member : Member) : Prop :=
  member.finalParameter = final ∧ Declares member.declarationType member.storageType

theorem declarations_shorter {members others : List Member} (plain : ∀ member ∈ members, Declared false member)
    (final : ∀ other ∈ others, Declared true other) (same : List.Forall₂ SameParameter members others)
    (some : members ≠ []) : (", ".intercalate (members.map (·.declaration))).length <
      (", ".intercalate (others.map (·.declaration))).length := by
  refine length_intercalate_lt ?_ (by simpa using some)
  rw [List.forall₂_map_left_iff, List.forall₂_map_right_iff]
  refine (forall₂_with plain final same).imp ?_
  intro member other both
  obtain ⟨⟨plain, declares⟩, ⟨final, also⟩, same⟩ := both
  exact declaration_shorter same plain final declares also

private theorem declarations_final {members others : List Member} {final also : Bool}
    (one : ∀ member ∈ members, Declared final member) (another : ∀ other ∈ others, Declared also other)
    (same : List.Forall₂ SameParameter members others)
    (shown : ", ".intercalate (members.map (·.declaration)) = ", ".intercalate (others.map (·.declaration)))
    (some : members ≠ []) : final = also := by
  have flipped : List.Forall₂ SameParameter others members :=
    same.flip.imp fun _ _ same => ⟨same.annotations.symm, same.storageType.symm, same.parameterName.symm⟩
  have present : others ≠ [] := by
    intro none
    rw [none] at same
    cases same
    exact some rfl
  have lengths := congrArg String.length shown
  cases final <;> cases also
  · rfl
  · exact absurd lengths (Nat.ne_of_lt (declarations_shorter one another same some))
  · exact absurd lengths.symm (Nat.ne_of_lt (declarations_shorter another one flipped present))
  · rfl

/-- The parameters of a constructor, once it is known what each is stored as. -/
theorem declarations_unique {members others : List Member} {final also : Bool}
    (one : ∀ member ∈ members, Declared final member) (another : ∀ other ∈ others, Declared also other)
    (same : List.Forall₂ SameParameter members others)
    (shown : ", ".intercalate (members.map (·.declaration)) = ", ".intercalate (others.map (·.declaration))) :
    List.Forall₂ (fun member other => member.finalParameter = other.finalParameter ∧
      member.declarationType = other.declarationType) members others := by
  by_cases some : members = []
  · subst some
    cases same
    exact .nil
  · obtain rfl := declarations_final one another same shown some
    refine intercalate_unique ((forall₂_with one another same).imp ?_) shown
    intro member other known rest ahead shown
    obtain ⟨⟨final, declares⟩, ⟨finalToo, also⟩, same⟩ := known
    have final := final.trans finalToo.symm
    obtain ⟨whole, type⟩ := declaration_unique same final declares also shown
    exact ⟨whole, final, type⟩

end Members

end ParamBundle.Proofs.LayoutDecoding
