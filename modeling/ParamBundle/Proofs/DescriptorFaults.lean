import ParamBundle.Proofs.DescriptorSchema
import ParamBundle.Proofs.OrderedChecks

/-! What a document is blamed for. Its checks stand in the order in which they are made: the
top level, the style, then one parameter entry after the other. The first that fails decides
the fault, and a fault of an entry carries the name of that entry, if it has one. -/

namespace ParamBundle.Proofs.DescriptorFaults
open DescriptorSchema OrderedChecks Traversal
open WrittenJson (Plain plain_array_iff plain_object_iff read_spelled)

def membersOf : Json → Members
  | .object members => members
  | _ => []

def itemsOf : Option Json → List Json
  | some (.array items) => items
  | _ => []

def IsAnyObject : Json → Prop := IsObject fun _ => True

def IsAnyList : Json → Prop := IsListOf fun _ => True

/-- The name under which an entry is blamed. An empty one cannot be shown. -/
def entryName (entry : Json) : Option String :=
  match (membersOf entry).lookup "name" with
  | some (.string name) => if name = "" then none else some name
  | _ => none

def annotationChecks (name : Option String) (use : Json) : List Check :=
  let members := membersOf use
  [⟨IsAnyObject use, .malformed name .annotationNotObject⟩,
    ⟨Allows (OrNull IsText) members "name" ∧ Allows (OrNull IsText) members "arguments",
      .malformed name .annotationNotTexts⟩]

def memberChecks (name : Option String) (members : Members) : List Check :=
  [⟨Requires IsVisibleText members "type", .malformed name .entryWithoutType⟩,
    ⟨Allows IsFlag members "var_args", .malformed name (.flagNotBoolean "var_args")⟩,
    ⟨Allows IsFlag members "setter", .malformed name (.flagNotBoolean "setter")⟩,
    ⟨Allows (IsListOf IsText) members "modifiers", .malformed name .modifiersNotTexts⟩,
    ⟨Allows IsAnyList members "annotations", .malformed name .annotationsNotList⟩,
    ⟨Allows (OrNull IsText) members "doc", .malformed name .documentationNotText⟩] ++
  (itemsOf (members.lookup "annotations")).flatMap (annotationChecks name)

def entryChecks (entry : Json) : List Check :=
  [⟨IsAnyObject entry, .malformed (entryName entry) .entryNotObject⟩,
    ⟨Requires IsVisibleText (membersOf entry) "name", .malformed (entryName entry) .entryWithoutName⟩] ++
  memberChecks (entryName entry) (membersOf entry)

def settingKeys : List String := textSettings ++ ["generate_final_parameters"]

def foreignKeys (members : Members) : List String := (members.map (·.1)).filter fun key => key ∉ settingKeys

def settingFault (key : String) : Fault :=
  match Style.Setting.ofKey? key with
  | some setting => .configuration (.settingOfWrongType setting)
  | none => .configuration (.unknownSettings (.ofList [key]))

/-- All keys are looked at before any value is, so a value is only blamed for its type. -/
def styleChecks (style : Json) : List Check :=
  let members := membersOf style
  [⟨OrNull IsAnyObject style, .configuration .styleNotObject⟩,
    ⟨foreignKeys members = [], .configuration (.unknownSettings (.ofList (foreignKeys members)))⟩] ++
  members.map fun member => ⟨IsSetting member.1 member.2, settingFault member.1⟩

def styleOf (value : Json) : Json := ((membersOf value).lookup "style").getD .null

def entriesOf (value : Json) : List Json := itemsOf ((membersOf value).lookup "parameters")

/-- Of the parameters it is first seen that they are a list. What the list holds comes last. -/
def topChecks (source : String) (members : Members) : List Check :=
  [⟨Allows (OrNull IsText) members "package", .configuration (.packageNotText source)⟩,
    ⟨Allows (IsListOf IsText) members "type_parameters", .configuration (.typeParametersNotTexts source)⟩,
    ⟨Allows IsAnyList members "parameters", .configuration (.parametersNotList source)⟩]

def documentChecks (source : String) (value : Json) : List Check :=
  ⟨IsAnyObject value, .configuration (.documentNotObject source)⟩ :: topChecks source (membersOf value) ++
  styleChecks (styleOf value) ++ (entriesOf value).flatMap entryChecks

section Values
variable {members : Members} {key : String}

theorem isAnyObject (members : Members) : IsAnyObject (.object members) := ⟨members, rfl, trivial⟩

private theorem list_of_getD {items : List Json} (found : (members.lookup key).getD (.array []) = .array items) :
    Allows IsAnyList members key ∧ itemsOf (members.lookup key) = items := by
  cases given : members.lookup key with
  | none =>
    rw [given] at found
    cases found
    exact ⟨by simp [Allows, given], rfl⟩
  | some value =>
    rw [given] at found
    cases found
    exact ⟨by simp [Allows, IsAnyList, IsListOf, given], rfl⟩

private theorem not_list_of_getD (foreign : ∀ items, (members.lookup key).getD (.array []) ≠ .array items) :
    ¬ Allows IsAnyList members key := by
  intro allowed
  cases given : members.lookup key with
  | none => exact foreign [] (by simp [given])
  | some value =>
    obtain ⟨items, rfl, -⟩ := allowed value given
    exact foreign items (by simp [given])

theorem requiredText?_eq_some_iff {name : String} {found : Option Json} :
    FieldSpec.requiredText? found = some name ↔ found = some (.string name) ∧ name ≠ "" := by
  cases found with
  | none => simp [FieldSpec.requiredText?]
  | some value =>
    cases value with
    | string text =>
      simp only [FieldSpec.requiredText?, Json.string?, Option.bind_some, Option.filter_eq_some_iff, Option.some.injEq,
        Json.string.injEq]
      apply and_congr_right
      intro _
      simp
    | _ => simp [FieldSpec.requiredText?, Json.string?]

private theorem entryName_eq (entry : Json) : entryName entry = FieldSpec.requiredText? ((membersOf entry).lookup "name") := by
  rw [entryName]
  split
  next name given =>
    rw [given]
    by_cases empty : name = ""
    · subst empty
      rfl
    · rw [if_neg empty, requiredText?_eq_some_iff.mpr ⟨rfl, empty⟩]
  next foreign =>
    cases read : FieldSpec.requiredText? ((membersOf entry).lookup "name") with
    | none => rfl
    | some name => exact absurd (requiredText?_eq_some_iff.mp read).1 (foreign name)

end Values

section Readers

private theorem annotation_follows (name : Option String) (use : Json) :
    Follows (AnnotationUse.ofJson name use) (annotationChecks name use) := by
  cases use with
  | object members =>
    apply Follows.met (isAnyObject members)
    simp only [AnnotationUse.ofJson, ← optionalString?_isSome_iff, membersOf]
    cases Json.optionalString? (members.lookup "name") with
    | none => exact .failed (by simp)
    | some qualifiedName =>
      cases Json.optionalString? (members.lookup "arguments") with
      | none => exact .failed (by simp)
      | some arguments => exact .met (by simp) (.done _)
  | _ => exact .failed (by simp [IsAnyObject, IsObject])

private theorem flag_follows {members : Members} (name key : String) : Follows (FieldSpec.flag name key members)
    [⟨Allows IsFlag members key, .malformed (some name) (.flagNotBoolean key)⟩] := by
  rw [FieldSpec.flag]
  cases found : members.lookup key with
  | none => exact .met (by simp [Allows, found]) (.done false)
  | some value =>
    cases value with
    | bool flag => exact .met (by simp [Allows, IsFlag, found]) (.done flag)
    | _ => exact .failed (by simp [Allows, IsFlag, found])

/-- Once the name is known, all that is left to be seen is reported under it. -/
theorem members_follow (name : String) (members : Members) :
    Follows (FieldSpec.ofMembers name members) (memberChecks (some name) members) := by
  simp only [FieldSpec.ofMembers, memberChecks, List.cons_append, List.nil_append]
  cases typed : FieldSpec.requiredText? (members.lookup "type") with
  | none => exact .failed (by simp [← requiredText?_isSome_iff, typed])
  | some typeText =>
    apply Follows.met (requiredText?_isSome_iff.mp ⟨typeText, typed⟩)
    apply (flag_follows name "var_args").bind
    intro varArgs _
    apply (flag_follows name "setter").bind
    intro setterRequired _
    cases modified : ((members.lookup "modifiers").getD (.array [])).strings? with
    | none => exact .failed (by simp [← listOf_getD_iff, ← strings?_isSome_iff, modified])
    | some modifiers =>
      apply Follows.met (listOf_getD_iff.mp (strings?_isSome_iff.mp ⟨modifiers, modified⟩))
      cases listed : (members.lookup "annotations").getD (.array []) with
      | array uses =>
        obtain ⟨allowed, items⟩ := list_of_getD listed
        apply Follows.met allowed
        cases documented : Json.optionalString? (members.lookup "doc") with
        | none => exact .failed (by simp [← optionalString?_isSome_iff, documented])
        | some documentation =>
          apply Follows.met (optionalString?_isSome_iff.mp ⟨documentation, documented⟩)
          rw [items, ← List.append_nil (uses.flatMap _)]
          apply (Follows.mapM (annotation_follows (some name)) uses).bind
          exact fun annotations _ => .done _
      | _ => exact .failed (not_list_of_getD (by simp [listed]))

theorem entry_follows (entry : Json) : Follows (FieldSpec.ofJson entry) (entryChecks entry) := by
  cases entry with
  | object members =>
    rw [FieldSpec.ofJson, entryChecks, entryName_eq, membersOf]
    apply Follows.met (isAnyObject members)
    cases named : FieldSpec.requiredText? (members.lookup "name") with
    | none => exact .failed (by simp [← requiredText?_isSome_iff, named])
    | some name => exact .met (requiredText?_isSome_iff.mp ⟨name, named⟩) (members_follow name members)
  | _ => exact .failed (by simp [IsAnyObject, IsObject])

theorem met_entryChecks_iff {entry : Json} : Met (entryChecks entry) ↔ IsParameter entry := by
  rw [← (parameter_decides entry).succeeds_iff]
  constructor
  · exact (entry_follows entry).accepts
  · intro ⟨spec, accepted⟩
    exact (entry_follows entry).met_of_ok accepted

section Styles
open Style

theorem mem_settingKeys_iff {key : String} : key ∈ settingKeys ↔ ∃ setting, Setting.ofKey? key = some setting := by
  constructor
  · intro listed
    simp only [settingKeys, textSettings, List.cons_append, List.nil_append, List.mem_cons, List.not_mem_nil,
      or_false] at listed
    rcases listed with rfl | rfl | rfl | rfl | rfl | rfl | rfl
    all_goals exact ⟨_, rfl⟩
  · intro found
    obtain ⟨setting, known⟩ := found
    obtain rfl := ofKey?_eq_some_iff.mp known
    cases setting <;> decide

theorem unknownKeys_eq (members : Members) : unknownKeys members = foreignKeys members := by
  apply List.filter_congr
  intro key _
  have known : key ∈ settingKeys ↔ _ := mem_settingKeys_iff
  cases found : Setting.ofKey? key with
  | none => simpa [found] using known
  | some setting => simpa [found] using known

private theorem set_follows (style : Style) (setting : Setting) (value : Json) : Follows (style.set setting value)
    [⟨IsSetting setting.key value, .configuration (.settingOfWrongType setting)⟩] := by
  cases setting with
  | finalParameters =>
    cases value with
    | bool flag => exact .met (by simp [IsSetting, Setting.key, IsFlag]) (.done _)
    | _ => exact .failed (by simp [IsSetting, Setting.key, IsFlag, textSettings])
  | _ =>
    cases value with
    | string text => exact .met (by simp [IsSetting, Setting.key, IsText, textSettings]) (.done _)
    | _ => exact .failed (by simp [IsSetting, Setting.key, IsText])

private theorem setMember_follows (style : Style) (member : String × Json) :
    Follows (style.setMember member) [⟨IsSetting member.1 member.2, settingFault member.1⟩] := by
  rw [setMember, settingFault]
  cases known : Setting.ofKey? member.1 with
  | none =>
    apply Follows.failed
    intro allowed
    obtain ⟨setting, found⟩ := isSetting_known allowed
    rw [known] at found
    cases found
  | some setting =>
    simp only [← ofKey?_eq_some_iff.mp known]
    exact set_follows style setting member.2

theorem style_follows (value : Json) : Follows (Style.ofJson value) (styleChecks value) := by
  cases value with
  | null => exact .met (Or.inl rfl) (.met rfl (.done _))
  | object members =>
    simp only [styleChecks, membersOf, List.cons_append, List.nil_append]
    apply Follows.met (Or.inr (isAnyObject members))
    rw [Style.ofJson, unknownKeys_eq]
    cases foreign : foreignKeys members with
    | nil =>
      apply Follows.met rfl
      rw [List.map_eq_flatMap]
      exact Follows.foldlM setMember_follows members {}
    | cons key keys => exact .failed (List.cons_ne_nil key keys)
  | _ => exact .failed (by simp [OrNull, IsAnyObject, IsObject])

end Styles

theorem document_follows (source : String) (value : Json) :
    Follows (Descriptor.ofJson source value) (documentChecks source value) := by
  cases value with
  | object members =>
    simp only [documentChecks, topChecks, styleOf, entriesOf, membersOf, List.cons_append, List.nil_append]
    apply Follows.met (isAnyObject members)
    simp only [Descriptor.ofJson, Descriptor.ofMembers]
    cases packaged : Json.optionalString? (members.lookup "package") with
    | none => exact .failed (by simp [← optionalString?_isSome_iff, packaged])
    | some packageName =>
      apply Follows.met (optionalString?_isSome_iff.mp ⟨packageName, packaged⟩)
      cases generic : ((members.lookup "type_parameters").getD (.array [])).strings? with
      | none => exact .failed (by simp [← listOf_getD_iff, ← strings?_isSome_iff, generic])
      | some typeParameters =>
        apply Follows.met (listOf_getD_iff.mp (strings?_isSome_iff.mp ⟨typeParameters, generic⟩))
        cases listed : (members.lookup "parameters").getD (.array []) with
        | array entries =>
          obtain ⟨allowed, items⟩ := list_of_getD listed
          apply Follows.met allowed
          apply (style_follows _).bind
          intro style _
          rw [items, ← List.append_nil (entries.flatMap _)]
          apply (Follows.mapM entry_follows entries).bind
          exact fun fields _ => .done _
        | _ => exact .failed (not_list_of_getD (by simp [listed]))
  | _ => exact .failed (by simp [IsAnyObject, IsObject])

end Readers

section Faults
variable {source : String} {value entry : Json} {fault : Fault}

private theorem annotation_fault {name : Option String} {use : Json} {check : Check} (listed : check ∈ annotationChecks name use) :
    ∃ cause, check.fault = .malformed name cause := by
  simp only [annotationChecks, List.mem_cons, List.not_mem_nil, or_false] at listed
  obtain rfl | rfl := listed
  · exact ⟨_, rfl⟩
  · exact ⟨_, rfl⟩

/-- Whatever an entry is blamed for, it is blamed under its own name. -/
theorem entry_fault (first : FirstFault (entryChecks entry) fault) : ∃ cause, fault = .malformed (entryName entry) cause := by
  obtain ⟨check, listed, rfl⟩ := first.reported
  simp only [entryChecks, memberChecks, List.cons_append, List.nil_append, List.mem_cons, List.mem_flatMap] at listed
  obtain rfl | rfl | rfl | rfl | rfl | rfl | rfl | rfl | ⟨use, _, listed⟩ := listed
  all_goals first | exact ⟨_, rfl⟩ | exact annotation_fault listed

inductive StyleFault (style : Json) : Fault → Prop where
  | shape (misshapen : ¬ OrNull IsAnyObject style) : StyleFault style (.configuration .styleNotObject)
  | foreign (foreign : foreignKeys (membersOf style) ≠ []) :
      StyleFault style (.configuration (.unknownSettings (.ofList (foreignKeys (membersOf style)))))
  | setting {setting : Style.Setting} {before later : Members} {value : Json}
      (known : foreignKeys (membersOf style) = []) (shape : membersOf style = before ++ (setting.key, value) :: later)
      (fine : ∀ earlier ∈ before, IsSetting earlier.1 earlier.2) (wrong : ¬ IsSetting setting.key value) :
      StyleFault style (.configuration (.settingOfWrongType setting))

private theorem known_of_no_foreign {members : Members} {member : String × Json} (known : foreignKeys members = [])
    (listed : member ∈ members) : ∃ setting, Style.Setting.ofKey? member.1 = some setting := by
  have own : member.1 ∈ settingKeys := by simpa using List.filter_eq_nil_iff.mp known member.1 (List.mem_map_of_mem listed)
  exact mem_settingKeys_iff.mp own

theorem styleFault_of_first {style : Json} (first : FirstFault (styleChecks style) fault) : StyleFault style fault := by
  simp only [styleChecks, List.cons_append, List.nil_append] at first
  cases first with
  | here misshapen => exact .shape misshapen
  | later _ first =>
    cases first with
    | here foreign => exact .foreign foreign
    | later known first =>
      rw [List.map_eq_flatMap, firstFault_flatMap_iff] at first
      obtain ⟨before, ⟨key, value⟩, later, shape, earlier, failed⟩ := first
      have listed : (key, value) ∈ membersOf style := by simp [shape]
      obtain ⟨setting, found⟩ := known_of_no_foreign known listed
      obtain rfl := ofKey?_eq_some_iff.mp found
      cases failed with
      | here wrong =>
        rw [settingFault, found]
        exact .setting known shape (fun other listed => met_singleton.mp (earlier other listed)) wrong
      | later _ impossible => cases impossible

/-- Where the first fault of a document is found. -/
inductive Place (source : String) (value : Json) : Fault → Prop where
  | document (misshapen : ¬ IsAnyObject value) : Place source value (.configuration (.documentNotObject source))
  | top {fault : Fault} (listed : fault ∈ (topChecks source (membersOf value)).map (·.fault)) : Place source value fault
  | style {fault : Fault} (wrong : StyleFault (styleOf value) fault) : Place source value fault
  | entry {before later : List Json} {entry : Json} {fault : Fault} (shape : entriesOf value = before ++ entry :: later)
      (fine : ∀ earlier ∈ before, IsParameter earlier) (first : FirstFault (entryChecks entry) fault) :
      Place source value fault

private theorem place_of_first (first : FirstFault (documentChecks source value) fault) : Place source value fault := by
  rw [documentChecks, firstFault_append_iff, firstFault_append_iff] at first
  obtain (top | ⟨-, wrong⟩) | ⟨-, late⟩ := first
  · cases top with
    | here misshapen => exact .document misshapen
    | later _ top =>
      obtain ⟨check, listed, rfl⟩ := top.reported
      exact .top (List.mem_map_of_mem listed)
  · exact .style (styleFault_of_first wrong)
  · obtain ⟨before, entry, later, shape, earlier, failed⟩ := firstFault_flatMap_iff.mp late
    exact .entry shape (fun other listed => met_entryChecks_iff.mp (earlier other listed)) failed

private theorem topFault_cases (listed : fault ∈ (topChecks source (membersOf value)).map (·.fault)) :
    fault = .configuration (.packageNotText source) ∨ fault = .configuration (.typeParametersNotTexts source) ∨
      fault = .configuration (.parametersNotList source) := by
  simpa [topChecks] using listed

theorem malformed_place {name : Option String} {cause : ParameterFault}
    (first : FirstFault (documentChecks source value) (.malformed name cause)) :
    ∃ before entry later, entriesOf value = before ++ entry :: later ∧ (∀ earlier ∈ before, IsParameter earlier) ∧
      FirstFault (entryChecks entry) (.malformed name cause) ∧ name = entryName entry := by
  cases place_of_first first with
  | top listed =>
    obtain impossible | impossible | impossible := topFault_cases listed
    all_goals cases impossible
  | style wrong => cases wrong
  | entry shape fine failed =>
    obtain ⟨_, same⟩ := entry_fault failed
    cases same
    exact ⟨_, _, _, shape, fine, failed, rfl⟩

theorem style_place {cause : ConfigurationFault} (first : FirstFault (documentChecks source value) (.configuration cause))
    (other : cause ∉ [.documentNotObject source, .packageNotText source, .typeParametersNotTexts source,
      .parametersNotList source]) : StyleFault (styleOf value) (.configuration cause) := by
  cases place_of_first first with
  | document => simp at other
  | top listed =>
    obtain same | same | same := topFault_cases listed
    all_goals
      cases same
      simp at other
  | style wrong => exact wrong
  | entry _ _ failed =>
    obtain ⟨_, impossible⟩ := entry_fault failed
    cases impossible

end Faults

theorem entryName_eq_some_iff {entry : Json} {name : String} : entryName entry = some name ↔
    ∃ members, entry = .object members ∧ members.lookup "name" = some (.string name) ∧ name ≠ "" := by
  rw [entryName_eq, requiredText?_eq_some_iff]
  cases entry <;> simp [membersOf]

def label : Option String → String
  | some name => "'" ++ name ++ "'"
  | none => "<unnamed>"

private theorem malformedParameterText_none (reason : String) :
    malformedParameterText none reason = "Malformed parameter " ++ label none ++ ": " ++ reason := by
  unfold malformedParameterText label
  simp only [toString]

private theorem malformedParameterText_some {name : String} (visible : name ≠ "") (reason : String) :
    malformedParameterText (some name) reason = "Malformed parameter " ++ label (some name) ++ ": " ++ reason := by
  have shown : name.isEmpty = false := by simpa using visible
  unfold malformedParameterText label
  simp only [toString, shown, Bool.false_eq_true, if_false]

private theorem malformed_message (entry : Json) (cause : ParameterFault) :
    (Fault.malformed (entryName entry) cause).message =
      "Malformed parameter " ++ label (entryName entry) ++ ": " ++ cause.message := by
  unfold Fault.message
  cases named : entryName entry with
  | none => exact malformedParameterText_none cause.message
  | some name =>
    obtain ⟨_, -, -, visible⟩ := entryName_eq_some_iff.mp named
    exact malformedParameterText_some visible cause.message

/-- Two documents that only differ in their parameters are looked over alike until the
parameters are read. -/
theorem documentChecks_edited {source : String} {members others : Members} {entries edited : List Json}
    (same : ∀ key, key ≠ "parameters" → others.lookup key = members.lookup key)
    (listed : members.lookup "parameters" = some (.array entries))
    (relisted : others.lookup "parameters" = some (.array edited)) :
    ∃ head, documentChecks source (.object members) = head ++ entries.flatMap entryChecks ∧
      documentChecks source (.object others) = head ++ edited.flatMap entryChecks := by
  have lists {items : List Json} {members : Members} (found : members.lookup "parameters" = some (.array items)) :
      Allows IsAnyList members "parameters" := by simp [Allows, IsAnyList, IsListOf, found]
  have top : topChecks source others = topChecks source members := by
    simp only [topChecks, eq_true (lists listed), eq_true (lists relisted)]
    simp [Allows, same]
  have style : styleOf (.object others) = styleOf (.object members) := by simp [styleOf, membersOf, same]
  refine ⟨⟨IsAnyObject (.object members), .configuration (.documentNotObject source)⟩ :: topChecks source members ++
    styleChecks (styleOf (.object members)), ?_, ?_⟩
  · simp [documentChecks, entriesOf, itemsOf, membersOf, listed]
  · rw [documentChecks, style, eq_true (isAnyObject others), eq_true (isAnyObject members)]
    simp [entriesOf, itemsOf, membersOf, relisted, top]

structure BlamesFirst (source text : String) (value : Json) : Prop where
  order : ∀ fault, Descriptor.parse source text = .error fault ↔ FirstFault (documentChecks source value) fault
  unknown : ∀ keys, Descriptor.parse source text = .error (.configuration (.unknownSettings keys)) →
    (∀ key, key ∈ keys ↔ key ∉ settingKeys ∧ ∃ held, (key, held) ∈ membersOf (styleOf value)) ∧
      keys.toList.Pairwise (· < ·) ∧
      (Fault.configuration (.unknownSettings keys)).message = "Unknown style settings: " ++ ", ".intercalate keys.toList
  setting : ∀ setting, Descriptor.parse source text = .error (.configuration (.settingOfWrongType setting)) →
    foreignKeys (membersOf (styleOf value)) = [] ∧
      ∃ before held later, membersOf (styleOf value) = before ++ (setting.key, held) :: later ∧
        (∀ earlier ∈ before, IsSetting earlier.1 earlier.2) ∧ ¬ IsSetting setting.key held
  entry : ∀ name cause, Descriptor.parse source text = .error (.malformed name cause) →
    ∃ before entry later, entriesOf value = before ++ entry :: later ∧ (∀ earlier ∈ before, IsParameter earlier) ∧
      FirstFault (entryChecks entry) (.malformed name cause) ∧
      (∀ own, name = some own ↔
        ∃ members, entry = .object members ∧ members.lookup "name" = some (.string own) ∧ own ≠ "") ∧
      (Fault.malformed name cause).message = "Malformed parameter " ++ label name ++ ": " ++ cause.message
  /-- Documents that are alike up to the first check that fails are blamed alike. -/
  unaffected : ∀ edited other shared fault, Json.read edited = .ok other → shared <+: documentChecks source value →
    shared <+: documentChecks source other → FirstFault shared fault →
    Descriptor.parse source text = .error fault ∧ Descriptor.parse source edited = .error fault
  /-- So are documents with entries that are alike up to there, whatever entries follow. -/
  laterEntries : ∀ edited members others before entry changed later following shared fault,
    value = .object members → Json.read edited = .ok (.object others) →
    (∀ key, key ≠ "parameters" → others.lookup key = members.lookup key) →
    members.lookup "parameters" = some (.array (before ++ entry :: later)) →
    others.lookup "parameters" = some (.array (before ++ changed :: following)) →
    shared <+: entryChecks entry → shared <+: entryChecks changed → FirstFault shared fault →
    Descriptor.parse source edited = Descriptor.parse source text

section Blame
variable {source text edited : String} {value other : Json} {fault : Fault}

theorem parse_error_iff (read : Json.read text = .ok value) :
    Descriptor.parse source text = .error fault ↔ FirstFault (documentChecks source value) fault := by
  have parsed : Descriptor.parse source text = Descriptor.ofJson source value := by rw [Descriptor.parse, read]
  rw [parsed]
  exact (document_follows source value).error_iff

private theorem parse_alike {shared : List Check} (read : Json.read text = .ok value) (reread : Json.read edited = .ok other)
    (begins : shared <+: documentChecks source value) (again : shared <+: documentChecks source other)
    (first : FirstFault shared fault) :
    Descriptor.parse source text = .error fault ∧ Descriptor.parse source edited = .error fault := by
  obtain ⟨later, shape⟩ := begins
  obtain ⟨following, reshaped⟩ := again
  rw [parse_error_iff read, parse_error_iff reread, ← shape, ← reshaped]
  exact ⟨first.append later, first.append following⟩

/-- What was wrong in an entry stays wrong, unless something before it is wrong already. -/
theorem parse_entries_alike {members others : Members} {before later following : List Json} {entry changed : Json}
    {shared : List Check} (read : Json.read text = .ok (.object members)) (reread : Json.read edited = .ok (.object others))
    (same : ∀ key, key ≠ "parameters" → others.lookup key = members.lookup key)
    (listed : members.lookup "parameters" = some (.array (before ++ entry :: later)))
    (relisted : others.lookup "parameters" = some (.array (before ++ changed :: following)))
    (begins : shared <+: entryChecks entry) (again : shared <+: entryChecks changed) (first : FirstFault shared fault) :
    Descriptor.parse source edited = Descriptor.parse source text := by
  obtain ⟨head, shape, reshaped⟩ := documentChecks_edited same listed relisted
  rw [List.flatMap_append, List.flatMap_cons, ← List.append_assoc] at shape reshaped
  have broken : ¬ Met (head ++ before.flatMap entryChecks ++ shared) := by
    rw [met_append]
    exact fun met => first.not_met met.2
  obtain met | ⟨blamed, found⟩ := met_or_fault (head ++ before.flatMap entryChecks ++ shared)
  · exact absurd met broken
  · have whole : head ++ before.flatMap entryChecks ++ shared <+: documentChecks source (.object members) := by
      rw [shape]
      exact (List.prefix_append_right_inj _).mpr (begins.trans (List.prefix_append ..))
    have rewhole : head ++ before.flatMap entryChecks ++ shared <+: documentChecks source (.object others) := by
      rw [reshaped]
      exact (List.prefix_append_right_inj _).mpr (again.trans (List.prefix_append ..))
    obtain ⟨refused, rerefused⟩ := parse_alike read reread whole rewhole found
    exact rerefused.trans refused.symm

private theorem unknown_settings {keys : NameSet} (read : Json.read text = .ok value)
    (refused : Descriptor.parse source text = .error (.configuration (.unknownSettings keys))) {key : String} :
    key ∈ keys ↔ key ∉ settingKeys ∧ ∃ held, (key, held) ∈ membersOf (styleOf value) := by
  have wrong := style_place ((parse_error_iff read).mp refused) (by simp)
  cases wrong with
  | foreign _ =>
    simp only [NameSet.mem_ofList, foreignKeys, List.mem_filter, List.mem_map, decide_eq_true_eq, Prod.exists,
      exists_and_right, exists_eq_right]
    exact and_comm

/-- Reading a document that is JSON blames it for its first fault, and a parameter under its
own name. Nothing that comes after that fault can change it. -/
theorem rejection_blames_first_fault (read : Json.read text = .ok value) : BlamesFirst source text value := by
  refine ⟨fun _ => parse_error_iff read, ?_, ?_, ?_, ?_, ?_⟩
  · intro keys refused
    exact ⟨fun key => unknown_settings read refused, keys.increasing, rfl⟩
  · intro setting refused
    have wrong := style_place ((parse_error_iff read).mp refused) (by simp)
    cases wrong with
    | setting known shape fine wrong => exact ⟨known, _, _, _, shape, fine, wrong⟩
  · intro name cause refused
    obtain ⟨before, entry, later, shape, fine, first, rfl⟩ := malformed_place ((parse_error_iff read).mp refused)
    exact ⟨before, entry, later, shape, fine, first, fun own => entryName_eq_some_iff, malformed_message entry cause⟩
  · intro edited other shared fault reread begins again first
    exact parse_alike read reread begins again first
  · intro edited members others before entry changed later following shared fault rfl reread same listed relisted
      begins again first
    exact parse_entries_alike read reread same listed relisted begins again first

end Blame

/-- The type is looked for before the documentation and before the next entry, so neither of
them matters here. -/
theorem missing_type_is_blamed_first :
    let parse := Descriptor.parse "d"
    let text := "\x7b\"parameters\":[\x7b\"name\":\"x\",\"doc\":true\x7d,null]\x7d"
    let edited := "\x7b\"parameters\":[\x7b\"name\":\"x\"\x7d]\x7d"
    (∃ value, Json.read text = .ok value ∧ BlamesFirst "d" text value) ∧
      parse text = .error (.malformed (some "x") .entryWithoutType) ∧ parse edited = parse text := by
  intro parse text edited
  let entry : Json := .object [("name", .string "x"), ("doc", .bool true)]
  let changed : Json := .object [("name", .string "x")]
  have read : Json.read text = .ok (.object [("parameters", .array [entry, .null])]) := by
    refine read_spelled ?_ (by decide)
    simp [entry, plain_object_iff, plain_array_iff, Plain.string, Plain.bool, Plain.null]
  have reread : Json.read edited = .ok (.object [("parameters", .array [changed])]) := by
    refine read_spelled ?_ (by decide)
    simp [changed, plain_object_iff, plain_array_iff, Plain.string]
  have blamed : BlamesFirst "d" text _ := rejection_blames_first_fault read
  let shared : List Check := (entryChecks entry).take 3
  have begins : shared <+: entryChecks entry := List.take_prefix 3 (entryChecks entry)
  have again : shared <+: entryChecks changed := by
    simp [shared, entry, changed, entryChecks, entryName, memberChecks, membersOf, Requires, IsAnyObject, IsObject, List.lookup_cons, List.lookup_nil]
  have first : FirstFault shared (.malformed (some "x") .entryWithoutType) := by
    refine .later (isAnyObject _) (.later ?_ (.here ?_))
    all_goals simp [entry, membersOf, Requires, IsVisibleText, List.lookup_cons, List.lookup_nil]
  have alike : parse edited = parse text := by
    apply blamed.laterEntries edited _ _ [] entry changed [.null] [] shared _ rfl reread ?_ rfl rfl begins again first
    intro key other
    simp [List.lookup_cons, beq_false_of_ne other]
  have refused : parse text = .error (.malformed (some "x") .entryWithoutType) := by
    obtain ⟨rest, whole⟩ := begins
    apply (blamed.order _).mpr
    apply FirstFault.after
    · apply firstFault_flatMap_iff.mpr
      exact ⟨[], entry, [.null], rfl, by simp, whole ▸ first.append rest⟩
    · simp [Met, topChecks, styleChecks, styleOf, membersOf, Allows, IsAnyObject, IsObject, IsAnyList, IsListOf, OrNull,
        foreignKeys, List.lookup_cons, List.lookup_nil]
  exact ⟨⟨_, read, blamed⟩, refused, alike⟩

end ParamBundle.Proofs.DescriptorFaults
