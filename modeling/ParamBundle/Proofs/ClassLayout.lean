import ParamBundle.Proofs.DraftHistory
import ParamBundle.Proofs.LayoutDecoding
import ParamBundle.Proofs.LineFeeds

/-! The layout of a class, and what can be read back from it. The lines of each block come in
the order of the fields, and where one block ends and the next begins shows in the text alone.
Only documentation that passes for a field can hide which field is which. -/

namespace ParamBundle.Proofs.ClassLayout
open DottedNames DraftHistory LayoutDecoding LineFeeds RenderFaults Traversal

variable {draft : Draft} {style : Style} {spec : FieldSpec} {member : Member} {model other : ClassModel}

/-- What the lines of a member say, wherever they stand. All of them name one field, and the
field is final exactly when it has no setter. -/
structure NamesField (member : Member) : Prop where
  documentation : member.documentationLines = (member.documentation.filter (· ≠ "")).toList
  field : member.fieldLines = member.documentationLines ++
    ["\t" ++ member.annotations ++ "private " ++ (if member.setterRequired then "" else "final ") ++
      member.storageType ++ " " ++ member.fieldName ++ ";"]
  assignment : ∃ qualifier ∈ ["", "this."], member.assignmentLine =
    "\t\t" ++ qualifier ++ member.fieldName ++ " = " ++ member.parameterName ++ ";"
  getter : member.getterLines = ["",
    "\t" ++ member.annotations ++ "public " ++ member.storageType ++ " " ++ member.getterName ++ "()\x7b",
    "\t\treturn " ++ member.fieldName ++ ";", "\t\x7d"]
  setter : member.setterRequired = true → member.setterLines = ["",
    "\tpublic void " ++ member.setterName ++ "(" ++ member.declaration ++ ")\x7b", member.assignmentLine, "\t\x7d"]

theorem namesField (member : Member) : NamesField member where
  documentation := by
    cases given : member.documentation with
    | none => simp [Member.documentationLines, given]
    | some text => by_cases empty : text = "" <;> simp [Member.documentationLines, Option.filter, given, empty]
  field := by simp [Member.fieldLines, fieldLine_eq, String.append_assoc]
  assignment := by
    by_cases hidden : member.fieldName = member.parameterName
    · exact ⟨"this.", by simp, by rw [assignmentLine_qualified hidden]; simp only [String.append_assoc]⟩
    · exact ⟨"", by simp, by simp [assignmentLine_plain hidden, String.append_assoc]⟩
  getter := rfl
  setter required := if_pos required

/-- The lines of a rendered text, block by block, with a member for each field in order. -/
structure LaidOut (draft : Draft) (text : String) (model : ClassModel) : Prop where
  settled : draft.classModel = .ok model
  members : ∃ style, draft.style = some style ∧
    List.Forall₂ (fun spec member => Member.resolve style spec = .ok member) draft.fields model.members
  setters : model.members.map (·.setterRequired) = draft.fields.map (·.setterRequired)
  lines : linesOf text =
    (if model.packageName = "" then [] else ["package " ++ model.packageName ++ ";"]) ++
      ["public class " ++ model.className ++ typeClause model.typeParameters ++ "\x7b"] ++
      model.members.flatMap (·.fieldLines) ++
      ["", "\tpublic " ++ model.className ++ "(" ++ ", ".intercalate (model.members.map (·.declaration)) ++ ")\x7b"] ++
      model.members.map (·.assignmentLine) ++ ["\t\x7d"] ++ model.members.flatMap (·.getterLines) ++
      (model.members.filter (·.setterRequired)).flatMap (·.setterLines) ++ ["\x7d", ""]
  named : ∀ member ∈ model.members, NamesField member

/-- The member as it is written: documentation without text is left out. -/
def written (member : Member) : Member := { member with documentation := member.documentation.filter (· ≠ "") }

structure Agree (model other : ClassModel) : Prop where
  packageName : model.packageName = other.packageName
  className : model.className = other.className
  typeParameters : ",".intercalate model.typeParameters = ",".intercalate other.typeParameters
  fieldNames : model.members.map (·.fieldName) = other.members.map (·.fieldName)
  parameterNames : model.members.map (·.parameterName) = other.members.map (·.parameterName)
  setterCount : model.members.countP (·.setterRequired) = other.members.countP (·.setterRequired)
  fieldLines : model.members.flatMap (·.fieldLines) = other.members.flatMap (·.fieldLines)
  constructorLine : model.constructorLine = other.constructorLine
  getterLines : model.members.map (·.getterLines) = other.members.map (·.getterLines)
  setterLines : (model.members.filter (·.setterRequired)).map (·.setterLines) =
    (other.members.filter (·.setterRequired)).map (·.setterLines)
  members : (∀ member ∈ model.members, Distinct member) → (∀ member ∈ other.members, Distinct member) →
    model.members.map written = other.members.map written

private theorem setters_eq (members : List Member) :
    members.flatMap (·.setterLines) = (members.filter (·.setterRequired)).flatMap (·.setterLines) := by
  induction members with
  | nil => rfl
  | cons member members ih =>
    by_cases required : member.setterRequired = true
    · simp [required, ih]
    · have none : member.setterLines = [] := if_neg required
      simp [required, none, ih]

/-- The lines with the marks between the blocks set apart. -/
theorem lines_eq (model : ClassModel) : model.lines =
    model.packageLines ++ model.header :: (model.members.flatMap (·.fieldLines) ++
      "" :: model.constructorLine :: (model.members.map (·.assignmentLine) ++
        "\t\x7d" :: (model.members.flatMap (·.getterLines) ++
          ((model.members.filter (·.setterRequired)).flatMap (·.setterLines) ++ ["\x7d"])))) := by
  simp [ClassModel.lines, ClassModel.constructorLines, setters_eq]

structure Regular (model : ClassModel) : Prop where
  className : isIdentifier model.className = true
  spaced : ∀ member ∈ model.members, Spaced member.annotations
  declared : ∃ final, ∀ member ∈ model.members, Declared final member

private theorem resolve_regular (resolved : Member.resolve style spec = .ok member) :
    Spaced member.annotations ∧ Declared style.finalParameters member := by
  obtain ⟨_, _, _, -, declared, stored, rfl⟩ := resolve_ok_iff.mp resolved
  exact ⟨spaced_annotationText _, rfl, declares_typeAt declared stored⟩

/-- A package line and a header differ from their second letter on. -/
theorem packageLines_unique {rest others : List String}
    (same : model.packageLines ++ model.header :: rest = other.packageLines ++ other.header :: others) :
    model.packageName = other.packageName ∧ model.header :: rest = other.header :: others := by
  have apart (model other : ClassModel) : "package " ++ model.packageName ++ ";" ≠ other.header := by
    intro same
    have letter := congrArg (·.toList[1]?) same
    simp [header_eq] at letter
  by_cases here : model.packageName = "" <;> by_cases there : other.packageName = ""
  all_goals simp only [ClassModel.packageLines, here, there, String.isEmpty_iff, if_true, if_false, List.nil_append,
    List.singleton_append] at same
  · exact ⟨here.trans there.symm, same⟩
  · exact absurd (List.cons.inj same).1.symm (apart _ _)
  · exact absurd (List.cons.inj same).1 (apart _ _)
  · obtain ⟨package, rest⟩ := List.cons.inj same
    rw [String.append_left_inj, String.append_right_inj] at package
    exact ⟨package, rest⟩

private theorem typeClause_unique {texts others : List String} (same : typeClause texts = typeClause others) :
    ",".intercalate texts = ",".intercalate others := by
  cases texts with
  | nil =>
    cases others with
    | nil => rfl
    | cons => simp [typeClause] at same
  | cons =>
    cases others with
    | nil => simp [typeClause] at same
    | cons => simpa [typeClause, String.append_left_inj, String.append_right_inj] using same

private theorem after_className (texts : List String) :
    ∃ c rest, (typeClause texts).toList ++ "\x7b".toList = c :: rest ∧ isIdentifierPart c = false := by
  cases texts with
  | nil => exact ⟨'\x7b', [], by simp [typeClause], rfl⟩
  | cons text texts =>
    exact ⟨'<', (",".intercalate (text :: texts)).toList ++ ">\x7b".toList, by simp [typeClause], rfl⟩

/-- What follows the name in the header is no part of a name. -/
theorem header_unique (named : isIdentifier model.className = true) (also : isIdentifier other.className = true)
    (same : model.header = other.header) :
    model.className = other.className ∧ typeClause model.typeParameters = typeClause other.typeParameters := by
  obtain ⟨c, rest, shape, stops⟩ := after_className model.typeParameters
  obtain ⟨d, others, shapeToo, halts⟩ := after_className other.typeParameters
  have named := isIdentifier_chars named
  have also := isIdentifier_chars also
  rw [header_eq, header_eq, String.append_assoc, String.append_assoc, String.append_assoc, String.append_assoc,
    String.append_right_inj] at same
  have chars := congrArg String.toList same
  simp only [String.toList_append, shape, shapeToo] at chars
  obtain ⟨name, -⟩ := run_unique named also (by simp [stops]) (by simp [halts]) chars
  rw [String.toList_inj.mp name, String.append_right_inj, String.append_left_inj] at same
  exact ⟨String.toList_inj.mp name, same⟩

/-- No line of the field block is empty. -/
theorem fieldLines_visible (members : List Member) : ∀ line ∈ members.flatMap (·.fieldLines), line ≠ "" := by
  intro line listed
  obtain ⟨member, -, listed⟩ := List.mem_flatMap.mp listed
  obtain documented | declared := List.mem_append.mp listed
  · rw [(namesField member).documentation, Option.mem_toList, Option.filter_eq_some_iff] at documented
    simpa using documented.2
  · rw [List.mem_singleton.mp declared]
    simp [Member.fieldLine]

private theorem assignmentLines_indented (members : List Member) :
    ∀ line ∈ members.map (·.assignmentLine), ∃ rest, line = "\t\t" ++ rest :=
  List.forall_mem_map.mpr fun member _ => ⟨member.assignment.text, rfl⟩

structure SameBlocks (model other : ClassModel) : Prop where
  packageName : model.packageName = other.packageName
  header : model.header = other.header
  fieldLines : model.members.flatMap (·.fieldLines) = other.members.flatMap (·.fieldLines)
  constructorLine : model.constructorLine = other.constructorLine
  assignmentLines : model.members.map (·.assignmentLine) = other.members.map (·.assignmentLine)
  getterLines : model.members.map (·.getterLines) = other.members.map (·.getterLines)
  setterLines : (model.members.filter (·.setterRequired)).map (·.setterLines) =
    (other.members.filter (·.setterRequired)).map (·.setterLines)

theorem sameBlocks_of_lines (same : model.lines = other.lines) : SameBlocks model other := by
  rw [lines_eq, lines_eq] at same
  obtain ⟨packageName, same⟩ := packageLines_unique same
  obtain ⟨header, same⟩ := List.cons.inj same
  obtain ⟨fieldLines, same⟩ :=
    run_unique (fieldLines_visible _) (fieldLines_visible _) (not_not.mpr rfl) (not_not.mpr rfl) same
  obtain ⟨constructorLine, same⟩ := List.cons.inj (List.cons.inj same).2
  have closing : ¬ ∃ rest, "\t\x7d" = "\t\t" ++ rest := by
    intro shape
    obtain ⟨rest, shape⟩ := shape
    simpa using congrArg String.toList shape
  obtain ⟨assignmentLines, same⟩ :=
    run_unique (assignmentLines_indented _) (assignmentLines_indented _) closing closing same
  have count : model.members.length = other.members.length := by simpa using congrArg List.length assignmentLines
  have getters (members : List Member) : ∀ member ∈ members, member.getterLines.length = 4 := fun _ _ => rfl
  have setters (members : List Member) :
      ∀ member ∈ members.filter (·.setterRequired), member.setterLines.length = 4 := by
    intro member listed
    rw [Member.setterLines, if_pos (List.mem_filter.mp listed).2]
    rfl
  obtain ⟨getterLines, same⟩ := List.append_inj (List.cons.inj same).2 (by
    rw [length_flatMap_of_width (getters _), length_flatMap_of_width (getters _), count])
  exact {
    packageName, header, fieldLines, constructorLine, assignmentLines
    getterLines := flatMap_unique (by decide) (getters _) (getters _) getterLines
    setterLines := flatMap_unique (by decide) (setters _) (setters _) (List.append_cancel_right same) }

theorem written_eq {other : Member} (field : SameField member other)
    (documentation : member.documentationLines = other.documentationLines)
    (parameterName : member.parameterName = other.parameterName)
    (final : member.finalParameter = other.finalParameter)
    (declarationType : member.declarationType = other.declarationType) : written member = written other := by
  have documentation := congrArg List.head? documentation
  rw [(namesField member).documentation, (namesField other).documentation, Option.head?_toList,
    Option.head?_toList] at documentation
  simp only [written, Member.mk.injEq]
  exact ⟨field.fieldName, parameterName, field.capitalizedName, declarationType, field.storageType, field.isBoolean,
    field.annotations, documentation, final, field.setterRequired⟩

section Blocks
variable (same : SameBlocks model other)
include same

/-- Each getter names its field, and with the field known its assignment names the parameter. -/
theorem SameBlocks.names : List.Forall₂ (fun member other => member.getterLines = other.getterLines ∧
    member.fieldName = other.fieldName ∧ member.parameterName = other.parameterName) model.members other.members := by
  refine (map_eq_iff_forall₂.mp same.getterLines).mp ?_ (map_eq_iff_forall₂.mp same.assignmentLines)
  intro member other getter assignment
  have field := fieldName_of_getterLines getter
  exact ⟨getter, field, parameterName_of_assignmentLine field assignment⟩

theorem SameBlocks.className (named : isIdentifier model.className = true) (also : isIdentifier other.className = true) :
    model.className = other.className := (header_unique named also same.header).1

theorem SameBlocks.declarations (named : model.className = other.className) :
    ", ".intercalate (model.members.map (·.declaration)) = ", ".intercalate (other.members.map (·.declaration)) := by
  have line := same.constructorLine
  simpa only [ClassModel.constructorLine, named, String.append_left_inj, String.append_right_inj] using line

theorem SameBlocks.members (regular : Regular model) (also : Regular other)
    (distinct : ∀ member ∈ model.members, Distinct member) (apart : ∀ member ∈ other.members, Distinct member) :
    model.members.map written = other.members.map written := by
  have lines := fieldLines_unique distinct apart same.fieldLines
  have fields : List.Forall₂ (fun member other => member.documentationLines = other.documentationLines ∧
      SameField member other) model.members other.members := by
    refine lines.mp ?_ (forall₂_with regular.spaced also.spaced same.names)
    intro member other declared known
    obtain ⟨spaced, alsoSpaced, getter, -, -⟩ := known
    exact ⟨declared.1, sameField_of_lines spaced alsoSpaced declared.2 getter⟩
  have parameters : List.Forall₂ SameParameter model.members other.members := by
    refine fields.mp ?_ same.names
    intro member other field names
    exact ⟨field.2.annotations, field.2.storageType, names.2.2⟩
  obtain ⟨final, declared⟩ := regular.declared
  obtain ⟨finalToo, declaredToo⟩ := also.declared
  have shown := same.declarations (same.className regular.className also.className)
  have types := declarations_unique declared declaredToo parameters shown
  refine map_eq_iff_forall₂.mpr (fields.mp ?_ (types.mp (fun _ _ => And.intro) same.names))
  intro member other field rest
  obtain ⟨⟨final, type⟩, -, -, parameter⟩ := rest
  exact written_eq field.2 field.1 parameter final type

theorem SameBlocks.agree (regular : Regular model) (also : Regular other) : Agree model other := by
  have named := same.className regular.className also.className
  have clause := (header_unique regular.className also.className same.header).2
  have setters := congrArg List.length same.setterLines
  exact {
    packageName := same.packageName
    className := named
    typeParameters := typeClause_unique clause
    fieldNames := map_eq_iff_forall₂.mpr (same.names.imp fun _ _ names => names.2.1)
    parameterNames := map_eq_iff_forall₂.mpr (same.names.imp fun _ _ names => names.2.2)
    setterCount := by simpa [List.countP_eq_length_filter] using setters
    fieldLines := same.fieldLines
    constructorLine := same.constructorLine
    getterLines := same.getterLines
    setterLines := same.setterLines
    members := same.members regular also }

end Blocks

private theorem resolve_setter (resolved : Member.resolve style spec = .ok member) :
    member.setterRequired = spec.setterRequired := by
  obtain ⟨_, _, _, -, -, -, rfl⟩ := resolve_ok_iff.mp resolved
  rfl

section Drafts

theorem classModel_regular (reachable : Reachable draft) (settled : draft.classModel = .ok model) : Regular model := by
  obtain ⟨style, -, named, -, -, resolved⟩ := classModel_eq_ok_iff.mp settled
  have each : ∀ member ∈ model.members, Spaced member.annotations ∧ Declared style.finalParameters member := by
    intro member listed
    obtain ⟨spec, -, accepted⟩ := answered_of_mem resolved listed
    exact resolve_regular accepted
  exact {
    className := reachable.settled.className _ named
    spaced := fun member listed => (each member listed).1
    declared := ⟨style.finalParameters, fun member listed => (each member listed).2⟩ }

private theorem classModel_single (reachable : Reachable draft) (single : ∀ text ∈ draftTexts draft, SingleLine text)
    (settled : draft.classModel = .ok model) : SingleModel model := by
  obtain ⟨style, styled, named, packaged, typed, resolved⟩ := classModel_eq_ok_iff.mp settled
  simp only [draftTexts, List.forall_mem_append, styled, Option.toList_some, List.flatMap_cons, List.flatMap_nil,
    List.append_nil, List.forall_mem_flatMap] at single
  obtain ⟨⟨typeParameters, affixes⟩, texts⟩ := single
  have package : SingleLine model.packageName := by
    obtain empty | dotted := reachable.settled.packageName _ packaged
    · rw [empty]
      decide
    · exact singleLine_isDotted dotted
  refine ⟨package, singleLine_isIdentifier (reachable.settled.className _ named), typed ▸ typeParameters, ?_⟩
  intro member listed
  obtain ⟨spec, added, accepted⟩ := answered_of_mem resolved listed
  exact resolve_singleMember (List.forall_mem_append.mpr ⟨affixes, texts spec added⟩) accepted

private theorem laidOut_of_render {text : String} (reachable : Reachable draft)
    (single : ∀ text ∈ draftTexts draft, SingleLine text) (rendered : draft.render = .ok text) :
    ∃ model, LaidOut draft text model ∧ Regular model ∧ linesOf text = model.lines ++ [""] := by
  obtain ⟨model, settled, rfl⟩ := map_ok_iff.mp rendered
  obtain ⟨style, styled, -, -, -, resolved⟩ := classModel_eq_ok_iff.mp settled
  have lines : linesOf model.text = model.lines ++ [""] :=
    linesOf_unlines (classModel_single reachable single settled).lines
  refine ⟨model, ?_, classModel_regular reachable settled, lines⟩
  exact {
    settled
    members := ⟨style, styled, mapM_ok_iff.mp resolved⟩
    setters := map_eq_iff_forall₂.mpr ((mapM_ok_iff.mp resolved).flip.imp fun _ _ => resolve_setter)
    lines := by simp [lines, lines_eq, ClassModel.packageLines, header_eq, ClassModel.constructorLine]
    named := fun member _ => namesField member }

/-- A rendered text falls into blocks that show the same fields in the order in which they were
added. Any draft of the same text has the same names, as many fields and setters, and the same
lines in each block; unless documentation passes for a field, it has the same members. -/
theorem layout_is_unambiguous {text : String} (reachable : Reachable draft)
    (single : ∀ text ∈ draftTexts draft, SingleLine text) (rendered : draft.render = .ok text) :
    ∃ model, LaidOut draft text model ∧ ∀ other, Reachable other → (∀ text ∈ draftTexts other, SingleLine text) →
      other.render = .ok text → ∃ otherModel, LaidOut other text otherModel ∧ Agree model otherModel := by
  obtain ⟨model, laidOut, regular, lines⟩ := laidOut_of_render reachable single rendered
  refine ⟨model, laidOut, fun other reachable single rendered => ?_⟩
  obtain ⟨otherModel, otherOut, also, others⟩ := laidOut_of_render reachable single rendered
  have same : model.lines = otherModel.lines := List.append_cancel_right (lines.symm.trans others)
  exact ⟨otherModel, otherOut, (sameBlocks_of_lines same).agree regular also⟩

/-- The documentation of the second field passes for a field of its own. -/
theorem disguised_field_is_laid_out :
    let x : FieldSpec := { parameter := { name := "x", typeText := "int" }, setterRequired := true }
    let y : FieldSpec := { parameter := { name := "y", typeText := "int", documentation := "\tprivate int z;" } }
    let draft : Draft := { className := "P", packageName := "", style := some {}, fields := [x, y] }
    Reachable draft ∧ (∀ text ∈ draftTexts draft, SingleLine text) ∧ ∃ text model, draft.render = .ok text ∧
      LaidOut draft text model ∧ linesOf text =
        ["public class P\x7b",
          "\tprivate int x;", "\tprivate int z;", "\tprivate final int y;",
          "", "\tpublic P(int x, int y)\x7b", "\t\tthis.x = x;", "\t\tthis.y = y;", "\t\x7d",
          "", "\tpublic int getX()\x7b", "\t\treturn x;", "\t\x7d",
          "", "\tpublic int getY()\x7b", "\t\treturn y;", "\t\x7d",
          "", "\tpublic void setX(int x)\x7b", "\t\tthis.x = x;", "\t\x7d", "\x7d", ""] := by
  intro x y draft
  have reachable : Reachable draft :=
    ⟨some {}, [.setClassName (.string "P"), .setPackageName (.string ""), .addField x, .addField y], by decide⟩
  have single : ∀ text ∈ draftTexts draft, SingleLine text := by decide
  let member (name capitalized : String) (setterRequired : Bool) (documentation : Option String) : Member :=
    { fieldName := name, parameterName := name, capitalizedName := capitalized, declarationType := "int",
      storageType := "int", isBoolean := false, annotations := "", documentation, finalParameter := false,
      setterRequired }
  let model : ClassModel :=
    { packageName := "", className := "P", typeParameters := [],
      members := [member "x" "X" true none, member "y" "Y" false "\tprivate int z;"] }
  have settled : draft.classModel = .ok model := by decide
  have rendered : draft.render = .ok model.text := by
    rw [Draft.render, settled]
    rfl
  obtain ⟨shown, laidOut, -⟩ := layout_is_unambiguous reachable single rendered
  obtain rfl : model = shown := Except.ok.inj (settled.symm.trans laidOut.settled)
  exact ⟨reachable, single, model.text, model, rendered, laidOut, laidOut.lines.trans (by decide)⟩

/-- Documentation that passes for a field can take its place: here it hides whether `public`
belongs to the annotation or to the type. -/
example :
    let member (name capitalized type annotations : String) (documentation : Option String) : Member :=
      { fieldName := name, parameterName := name, capitalizedName := capitalized, declarationType := type,
        storageType := type, isBoolean := false, annotations, documentation, finalParameter := false,
        setterRequired := false }
    let model (first second : Member) : ClassModel :=
      { packageName := "", className := "P", typeParameters := [], members := [first, second] }
    let typed := model (member "x" "X" "public int" "@N " none)
      (member "y" "Y" "int" "" "\t@N public private final int x;")
    let annotated := model (member "x" "X" "int" "@N public " "\t@N private final public int x;")
      (member "y" "Y" "int" "" none)
    typed.lines = annotated.lines ∧ typed.members.map written ≠ annotated.members.map written := by decide

end Drafts

end ParamBundle.Proofs.ClassLayout
