import ParamBundle.Proofs.DescriptorEncoding
import ParamBundle.Proofs.DescriptorFaults

/-! Documents up to the order of their keys and to keys that nobody reads. An edit may move the
members of every object and, outside a style, add and drop members whose keys are not read. A
descriptor does not tell such documents apart, and a fault does so in one place only: of
several settings of the wrong type the first is named, and the order decides which is first. -/

namespace ParamBundle.Proofs.KeyOrder
open DescriptorEncoding DescriptorFaults DescriptorSchema OrderedChecks Style Traversal WrittenJson

/-! ### Edits -/

inductive Level where
  | document
  | style
  | entries
  | entry
  | uses
  | use
  | value

namespace Level

/-- The keys that are looked up, where there are others that are passed over. -/
def keys? : Level → Option (List String)
  | document => some ["package", "type_parameters", "style", "parameters"]
  | entry => some ["name", "type", "var_args", "setter", "modifiers", "annotations", "doc"]
  | use => some ["name", "arguments"]
  | _ => none

def reads (level : Level) (key : String) : Bool := level.keys?.all (·.contains key)

def under : Level → String → Level
  | document, "style" => style
  | document, "parameters" => entries
  | entry, "annotations" => uses
  | _, _ => value

def item : Level → Level
  | entries => entry
  | uses => use
  | _ => value

end Level

variable {level : Level} {value other : Json} {members others : Members} {key : String}

/-- The same value but for the order of the keys in its objects and for keys that are not read. -/
inductive Edited : Level → Json → Json → Prop where
  | same {level : Level} (value : Json) : Edited level value value
  | array {level : Level} {items others : List Json} (length : items.length = others.length)
      (each : ∀ item other, (item, other) ∈ items.zip others → Edited level.item item other) :
      Edited level (.array items) (.array others)
  | object {level : Level} {members others : Members}
      (keys : ((members.map (·.1)).filter level.reads).Perm ((others.map (·.1)).filter level.reads))
      (each : ∀ key value other, level.reads key = true → (key, value) ∈ members → (key, other) ∈ others →
        Edited (level.under key) value other) :
      Edited level (.object members) (.object others)

/-- Values may be edited where they stand, and the members then put in any order, among others
that are not read. -/
theorem edited_of_rearranged (aligned : Members)
    (values : List.Forall₂ (fun member edited => member.1 = edited.1 ∧ Edited (level.under member.1) member.2 edited.2)
      members aligned)
    (order : (aligned.filter (level.reads ·.1)).Perm (others.filter (level.reads ·.1)))
    (distinct : (others.map (·.1)).Nodup) : Edited level (.object members) (.object others) := by
  refine .object ?_ ?_
  · have keys : members.map (·.1) = aligned.map (·.1) :=
      map_eq_iff_forall₂.mpr (values.imp fun _ _ related => related.1)
    rw [keys, List.filter_map, List.filter_map]
    exact order.map _
  · intro key value other read listed relisted
    obtain ⟨edited, found, same, edit⟩ := partner_of_mem values.flip listed
    have kept : edited ∈ others :=
      List.mem_of_mem_filter (order.mem_iff.mp (List.mem_filter.mpr ⟨found, same ▸ read⟩))
    obtain rfl : edited = (key, other) := List.inj_on_of_nodup_map distinct kept relisted same.symm
    exact edit

/-! ### Readers of single values -/

theorem lookup_eq_none_iff : members.lookup key = none ↔ ¬ ∃ value, (key, value) ∈ members := by
  rw [List.lookup_eq_none_iff]
  grind

private theorem mem_of_lookup (found : members.lookup key = some value) : (key, value) ∈ members := by
  obtain ⟨before, later, rfl, -⟩ := List.lookup_eq_some_iff.mp found
  simp

/-- What is found under a key that is read is the same up to the edits made to it. -/
theorem Edited.lookup (edit : Edited level (.object members) (.object others)) (key : String)
    (read : level.reads key = true) :
    Option.Rel (Edited (level.under key)) (members.lookup key) (others.lookup key) := by
  cases edit with
  | same =>
    cases members.lookup key with
    | none => exact .none
    | some value => exact .some (.same value)
  | object keys each =>
    have holds : (∃ value, (key, value) ∈ members) ↔ ∃ other, (key, other) ∈ others := by
      have listed : key ∈ _ ↔ key ∈ _ := keys.mem_iff
      simpa [List.mem_filter, read] using listed
    cases found : members.lookup key with
    | none =>
      have missing : others.lookup key = none := by rwa [lookup_eq_none_iff, ← holds, ← lookup_eq_none_iff]
      rw [missing]
      exact .none
    | some value =>
      cases refound : others.lookup key with
      | none => exact absurd (holds.mp ⟨value, mem_of_lookup found⟩) (lookup_eq_none_iff.mp refound)
      | some other => exact .some (each key value other read (mem_of_lookup found) (mem_of_lookup refound))

theorem Edited.getD {found refound : Option Json} (edit : Option.Rel (Edited level) found refound) (instead : Json) :
    Edited level (found.getD instead) (refound.getD instead) := by
  cases edit with
  | none => exact .same instead
  | some edit => exact edit

theorem array_edited_iff {items others : List Json} :
    Edited level (.array items) (.array others) ↔ List.Forall₂ (Edited level.item) items others := by
  constructor
  · intro edit
    cases edit with
    | same => exact List.forall₂_same.mpr fun item _ => .same item
    | array length each => exact List.forall₂_iff_zip.mpr ⟨length, each _ _⟩
  · intro edits
    obtain ⟨length, each⟩ := List.forall₂_iff_zip.mp edits
    exact .array length fun _ _ paired => each paired

/-- A reader that answers alike for edited items does so for a list of them. -/
theorem mapM_edited {α : Type} {m : Type → Type} [Monad m] [LawfulMonad m] {reader : Json → m α} {items others : List Json}
    (edit : Edited level (.array items) (.array others))
    (alike : ∀ {item other}, Edited level.item item other → reader item = reader other) : items.mapM reader = others.mapM reader :=
  mapM_eq_of_forall₂ ((array_edited_iff.mp edit).imp fun _ _ edit => alike edit)

private theorem optionalString?_edited {found refound : Option Json} (edit : Option.Rel (Edited level) found refound) :
    Json.optionalString? found = Json.optionalString? refound := by
  cases edit with
  | none => rfl
  | some edit => cases edit <;> rfl

private theorem requiredText?_edited {found refound : Option Json} (edit : Option.Rel (Edited level) found refound) :
    FieldSpec.requiredText? found = FieldSpec.requiredText? refound := by
  cases edit with
  | none => rfl
  | some edit => cases edit <;> rfl

private theorem flag_edited (edit : Edited level (.object members) (.object others)) (name : String)
    (read : level.reads key = true) : FieldSpec.flag name key members = FieldSpec.flag name key others := by
  have found := edit.lookup key read
  unfold FieldSpec.flag
  generalize members.lookup key = value at found ⊢
  generalize others.lookup key = other at found ⊢
  cases found with
  | none => rfl
  | some edit => cases edit <;> rfl

private theorem string?_edited (edit : Edited level value other) : value.string? = other.string? := by
  cases edit <;> rfl

private theorem strings?_edited (edit : Edited level value other) : value.strings? = other.strings? := by
  cases edit with
  | same => rfl
  | array length each => exact mapM_edited (.array length each) string?_edited
  | object => rfl

/-! ### Entries -/

private theorem annotation_edited (name : Option String) (edit : Edited .use value other) :
    AnnotationUse.ofJson name value = AnnotationUse.ofJson name other := by
  cases edit with
  | same => rfl
  | array => rfl
  | object keys each =>
    have edit := Edited.object keys each
    rw [AnnotationUse.ofJson, AnnotationUse.ofJson, optionalString?_edited (edit.lookup "name" rfl),
      optionalString?_edited (edit.lookup "arguments" rfl)]

private theorem members_edited (name : String) (edit : Edited .entry (.object members) (.object others)) :
    FieldSpec.ofMembers name members = FieldSpec.ofMembers name others := by
  have typed := requiredText?_edited (edit.lookup "type" rfl)
  have varies : FieldSpec.flag name "var_args" members = _ := flag_edited edit name rfl
  have required : FieldSpec.flag name "setter" members = _ := flag_edited edit name rfl
  have modified := strings?_edited (Edited.getD (edit.lookup "modifiers" rfl) (.array []))
  have documented := optionalString?_edited (edit.lookup "doc" rfl)
  have annotated := Edited.getD (edit.lookup "annotations" rfl) (.array [])
  simp only [FieldSpec.ofMembers, typed, varies, required, modified, documented]
  generalize (members.lookup "annotations").getD (.array []) = uses at annotated ⊢
  generalize (others.lookup "annotations").getD (.array []) = edited at annotated ⊢
  cases annotated with
  | same => rfl
  | @array _ uses edited length each =>
    have edit : Edited .uses (.array uses) (.array edited) := .array length each
    have read : uses.mapM (AnnotationUse.ofJson (some name)) = _ := mapM_edited edit (annotation_edited _)
    simp only [read]
  | object => rfl

theorem field_edited (edit : Edited .entry value other) : FieldSpec.ofJson value = FieldSpec.ofJson other := by
  cases edit with
  | same => rfl
  | array => rfl
  | object keys each =>
    have edit := Edited.object keys each
    rw [FieldSpec.ofJson, FieldSpec.ofJson, requiredText?_edited (edit.lookup "name" rfl)]
    simp only [members_edited _ edit]

/-! ### Styles -/

def HoldsWrong (style : Json) (setting : Setting) : Prop :=
  ∃ held, (setting.key, held) ∈ membersOf style ∧ ¬ IsSetting setting.key held

/-- All keys are known, and this is the first setting of the wrong type. -/
def FirstWrong (style : Json) (setting : Setting) : Prop :=
  foreignKeys (membersOf style) = [] ∧ ∃ before held later, membersOf style = before ++ (setting.key, held) :: later ∧
    (∀ earlier ∈ before, IsSetting earlier.1 earlier.2) ∧ ¬ IsSetting setting.key held

/-- The same answers, or each document names its own first setting of the wrong type. -/
inductive Alike {α : Type} (style other : Json) : Except Fault α → Except Fault α → Prop where
  | same (answer : Except Fault α) : Alike style other answer answer
  | settings {setting another : Setting} (differ : setting ≠ another) (first : FirstWrong style setting)
      (again : FirstWrong other another) (also : HoldsWrong style another) (likewise : HoldsWrong other setting) :
      Alike style other (.error (.configuration (.settingOfWrongType setting)))
        (.error (.configuration (.settingOfWrongType another)))

theorem Alike.bind {α β : Type} {style other : Json} {first second : Except Fault α} (alike : Alike style other first second)
    (next : α → Except Fault β) : Alike style other (first >>= next) (second >>= next) := by
  cases alike with
  | same => exact .same _
  | settings differ first again also likewise => exact .settings differ first again also likewise

theorem Alike.ok_iff {α : Type} {style other : Json} {first second : Except Fault α} (alike : Alike style other first second)
    {answer : α} : first = .ok answer ↔ second = .ok answer := by
  cases alike with
  | same => rfl
  | settings => simp

private theorem setMember_holds {style after : Style} {member : String × Json} (done : style.setMember member = .ok after) :
    ∃ setting : Setting, setting.key = member.1 ∧ settingValue after setting = member.2 ∧
      ∀ other, other ≠ setting → settingValue after other = settingValue style other := by
  obtain ⟨key, held⟩ := member
  rw [setMember] at done
  cases known : Setting.ofKey? key with
  | none =>
    simp only [known] at done
    cases done
  | some setting =>
    simp only [known] at done
    refine ⟨setting, ofKey?_eq_some_iff.mp known, ?_⟩
    cases setting
    all_goals
      cases held <;> cases done
      refine ⟨rfl, ?_⟩
      intro other differ
      cases other <;> first | rfl | exact absurd rfl differ

/-- Every setting ends up with a value that the document holds for it, or stays as it was. -/
theorem foldlM_holds {before after : Style} (done : members.foldlM setMember before = .ok after) (setting : Setting) :
    (setting.key, settingValue after setting) ∈ members ∨
      (¬ ∃ held, (setting.key, held) ∈ members) ∧ settingValue after setting = settingValue before setting := by
  induction members generalizing before with
  | nil =>
    cases done
    exact Or.inr ⟨by simp, rfl⟩
  | cons member rest ih =>
    rw [List.foldlM_cons, bind_ok_iff] at done
    obtain ⟨middle, set, done⟩ := done
    obtain ⟨changed, named, holds, elsewhere⟩ := setMember_holds set
    -- a later member of the same key would have the last word
    obtain listed | ⟨missing, kept⟩ := ih done
    · exact Or.inl (List.mem_cons_of_mem member listed)
    · by_cases same : setting = changed
      · subst same
        rw [kept, holds, named]
        exact Or.inl List.mem_cons_self
      · right
        refine ⟨?_, kept.trans (elsewhere setting same)⟩
        rintro ⟨held, listed⟩
        obtain same_member | listed := List.mem_cons.mp listed
        · rw [← same_member] at named
          exact same (key_injective named.symm)
        · exact missing ⟨held, listed⟩

private theorem isSetting_edited (edit : Edited level value other) : IsSetting key value ↔ IsSetting key other := by
  cases edit <;> simp [IsSetting, IsText, IsFlag]

private theorem settingValue_edited {style : Style} {setting : Setting} (edit : Edited level (settingValue style setting) value) :
    settingValue style setting = value := by
  cases setting <;> cases edit <;> rfl

theorem FirstWrong.holdsWrong {style : Json} {setting : Setting} (first : FirstWrong style setting) :
    HoldsWrong style setting := by
  obtain ⟨-, before, held, later, shape, -, wrong⟩ := first
  exact ⟨held, by simp [shape], wrong⟩

private theorem not_holdsWrong_of_ok {style : Style} (accepted : Style.ofJson (.object members) = .ok style) (setting : Setting) :
    ¬ HoldsWrong (.object members) setting := by
  rintro ⟨held, listed, wrong⟩
  obtain impossible | allowed := (style_decides (.object members)).succeeds_iff.mp ⟨style, accepted⟩
  · cases impossible
  · exact wrong (isObject_iff.mp allowed _ listed)

private theorem firstWrong_of_error {fault : Fault} (known : foreignKeys members = [])
    (refused : Style.ofJson (.object members) = .error fault) :
    ∃ setting, fault = .configuration (.settingOfWrongType setting) ∧ FirstWrong (.object members) setting := by
  have blamed := styleFault_of_first ((style_follows (.object members)).error_iff.mp refused)
  cases blamed with
  | shape misshapen => exact absurd (Or.inr (isAnyObject members)) misshapen
  | foreign foreign => exact absurd known foreign
  | setting _ shape fine wrong => exact ⟨_, rfl, known, _, _, _, shape, fine, wrong⟩

private theorem ofJson_of_foreign (foreign : foreignKeys members ≠ []) :
    Style.ofJson (.object members) = .error (.configuration (.unknownSettings (.ofList (foreignKeys members)))) := by
  apply (style_follows (.object members)).error_iff.mpr
  exact .later (Or.inr (isAnyObject members)) (.here foreign)

structure StyleEdit (members others : Members) : Prop where
  keys : (members.map (·.1)).Perm (others.map (·.1))
  each : ∀ key value other, (key, value) ∈ members → (key, other) ∈ others → Edited .value value other

namespace StyleEdit

theorem holds_iff (edit : StyleEdit members others) :
    (∃ value, (key, value) ∈ members) ↔ ∃ other, (key, other) ∈ others := by
  have listed : key ∈ _ ↔ key ∈ _ := edit.keys.mem_iff
  simpa using listed

theorem holdsWrong_iff (edit : StyleEdit members others) (setting : Setting) :
    HoldsWrong (.object members) setting ↔ HoldsWrong (.object others) setting := by
  constructor
  · rintro ⟨value, listed, wrong⟩
    obtain ⟨other, relisted⟩ := edit.holds_iff.mp ⟨value, listed⟩
    exact ⟨other, relisted, mt (isSetting_edited (edit.each _ _ _ listed relisted)).mpr wrong⟩
  · rintro ⟨other, relisted, wrong⟩
    obtain ⟨value, listed⟩ := edit.holds_iff.mpr ⟨other, relisted⟩
    exact ⟨value, listed, mt (isSetting_edited (edit.each _ _ _ listed relisted)).mp wrong⟩

private theorem foreignKeys_perm (edit : StyleEdit members others) : (foreignKeys members).Perm (foreignKeys others) :=
  edit.keys.filter _

private theorem settings_eq (edit : StyleEdit members others) {style other : Style}
    (done : members.foldlM setMember {} = .ok style) (redone : others.foldlM setMember {} = .ok other) : style = other := by
  apply style_ext
  intro setting
  obtain listed | ⟨missing, default⟩ := foldlM_holds done setting
  · obtain relisted | ⟨missing, -⟩ := foldlM_holds redone setting
    · exact settingValue_edited (edit.each _ _ _ listed relisted)
    · exact absurd (edit.holds_iff.mp ⟨_, listed⟩) missing
  · obtain relisted | ⟨-, again⟩ := foldlM_holds redone setting
    · exact absurd (edit.holds_iff.mpr ⟨_, relisted⟩) missing
    · rw [default, again]

/-- Where no key is foreign, each document is accepted or blamed for a setting of its own. -/
theorem alike_of_known (edit : StyleEdit members others) (known : foreignKeys members = []) :
    Alike (.object members) (.object others) (Style.ofJson (.object members)) (Style.ofJson (.object others)) := by
  have reknown : foreignKeys others = [] := by simpa [known] using edit.foreignKeys_perm
  -- what is of the wrong type is so in both documents: both are refused or neither
  cases answered : Style.ofJson (.object members) with
  | ok style =>
    cases reanswered : Style.ofJson (.object others) with
    | ok other =>
      have same : style = other := by
        simp only [Style.ofJson, unknownKeys_eq, known, reknown] at answered reanswered
        exact edit.settings_eq answered reanswered
      rw [same]
      exact .same _
    | error fault =>
      obtain ⟨setting, -, first⟩ := firstWrong_of_error reknown reanswered
      exact absurd ((edit.holdsWrong_iff setting).mpr first.holdsWrong) (not_holdsWrong_of_ok answered setting)
  | error fault =>
    obtain ⟨setting, rfl, first⟩ := firstWrong_of_error known answered
    cases reanswered : Style.ofJson (.object others) with
    | ok other =>
      exact absurd ((edit.holdsWrong_iff setting).mp first.holdsWrong) (not_holdsWrong_of_ok reanswered setting)
    | error fault =>
      obtain ⟨another, rfl, again⟩ := firstWrong_of_error reknown reanswered
      by_cases differ : setting = another
      · rw [differ]
        exact .same _
      · exact .settings differ first again ((edit.holdsWrong_iff another).mpr again.holdsWrong)
          ((edit.holdsWrong_iff setting).mp first.holdsWrong)

/-- Foreign keys are reported as a set, so their order does not matter. -/
theorem ofJson_eq_of_foreign (edit : StyleEdit members others) (foreign : foreignKeys members ≠ []) :
    Style.ofJson (.object members) = Style.ofJson (.object others) := by
  have reforeign : foreignKeys others ≠ [] := by
    intro known
    exact foreign (by simpa [known] using edit.foreignKeys_perm)
  have named : NameSet.ofList (foreignKeys members) = NameSet.ofList (foreignKeys others) := by
    apply ofList_eq
    intro key
    rw [NameSet.mem_ofList]
    exact edit.foreignKeys_perm.mem_iff
  rw [ofJson_of_foreign foreign, ofJson_of_foreign reforeign, named]

end StyleEdit

theorem style_edited {style restyled : Json} (edit : Edited .style style restyled) :
    Alike style restyled (Style.ofJson style) (Style.ofJson restyled) := by
  cases edit with
  | same => exact .same _
  | array => exact .same _
  | @object _ members others keys each =>
    have all (keys : List String) : keys.filter Level.style.reads = keys := List.filter_eq_self.mpr fun _ _ => rfl
    rw [all, all] at keys
    have edit : StyleEdit members others := ⟨keys, fun key value other => each key value other rfl⟩
    by_cases known : foreignKeys members = []
    · exact edit.alike_of_known known
    · rw [edit.ofJson_eq_of_foreign known]
      exact .same _

/-! ### Documents -/

theorem document_edited (source : String) (edit : Edited .document value other) :
    Alike (styleOf value) (styleOf other) (Descriptor.ofJson source value) (Descriptor.ofJson source other) := by
  cases edit with
  | same => exact .same _
  | array => exact .same _
  | @object _ members others keys each =>
    have edit := Edited.object keys each
    have packaged := optionalString?_edited (edit.lookup "package" rfl)
    have generic := strings?_edited (Edited.getD (edit.lookup "type_parameters" rfl) (.array []))
    have styled := style_edited (Edited.getD (edit.lookup "style" rfl) .null)
    have listed := Edited.getD (edit.lookup "parameters" rfl) (.array [])
    simp only [Descriptor.ofJson, Descriptor.ofMembers, packaged, generic]
    generalize (members.lookup "parameters").getD (.array []) = entries at listed ⊢
    generalize (others.lookup "parameters").getD (.array []) = edited at listed ⊢
    -- the two runs are one and the same but for the style, and go on alike after it
    cases Json.optionalString? (others.lookup "package") with
    | none => exact .same _
    | some packageName =>
      cases ((others.lookup "type_parameters").getD (.array [])).strings? with
      | none => exact .same _
      | some typeParameters =>
        cases listed with
        | same =>
          cases entries with
          | array entries => exact styled.bind _
          | _ => exact .same _
        | @array _ entries edited length each =>
          have edit : Edited .entries (.array entries) (.array edited) := .array length each
          have read : entries.mapM FieldSpec.ofJson = _ := mapM_edited edit field_edited
          simp only [read]
          exact styled.bind _
        | object => exact .same _

/-- Edits of this kind change no descriptor and no fault, except which setting of the wrong type
comes first in a style that has several. -/
theorem parse_ignores_key_order {source text edited : String} (read : Json.read text = .ok value)
    (reread : Json.read edited = .ok other) (edit : Edited .document value other) :
    (∀ descriptor, Descriptor.parse source text = .ok descriptor ↔ Descriptor.parse source edited = .ok descriptor) ∧
      Alike (styleOf value) (styleOf other) (Descriptor.parse source text) (Descriptor.parse source edited) := by
  have alike : Alike (styleOf value) (styleOf other) (Descriptor.parse source text) (Descriptor.parse source edited) := by
    rw [Descriptor.parse, Descriptor.parse, read, reread]
    exact document_edited source edit
  exact ⟨fun _ => alike.ok_iff, alike⟩

/-- Every object is turned round, and where keys may be passed over there is one more. -/
theorem turned_document_is_read_alike :
    let use : Members := [("name", .string "A"), ("arguments", .string "1")]
    let entry (use : Members) : Members := [("name", .string "x"), ("type", .string "int"), ("annotations", .array [.object use])]
    let style : Members := [("field_name_prefix", .string "m"), ("generate_final_parameters", .bool true)]
    let document (style entry : Members) : Members :=
      [("package", .null), ("style", .object style), ("parameters", .array [.object entry])]
    let value : Json := .object (document style (entry use))
    let other : Json :=
      .object (("note", .null) :: document style.reverse (("id", .null) :: entry (("by", .null) :: use.reverse)).reverse)
    Edited .document value other ∧ ∃ text edited, Json.read text = .ok value ∧ Json.read edited = .ok other ∧
      ∃ descriptor, Descriptor.parse "d" text = .ok descriptor ∧ Descriptor.parse "d" edited = .ok descriptor := by
  intro use entry style document value other
  let reuse : Members := ("by", .null) :: use.reverse
  let reentry : Members := (("id", .null) :: entry reuse).reverse
  have unchanged {level : Level} (members : Members) : List.Forall₂
      (fun member edited => member.1 = edited.1 ∧ Edited (level.under member.1) member.2 edited.2) members members :=
    List.forall₂_same.mpr fun _ _ => ⟨rfl, .same _⟩
  have used : Edited .use (.object use) (.object reuse) := by
    apply edited_of_rearranged use (unchanged use)
    · exact (List.reverse_perm use).symm
    · simp [reuse, use]
  have entered : Edited .entry (.object (entry use)) (.object reentry) := by
    apply edited_of_rearranged (entry reuse)
    · exact .cons ⟨rfl, .same _⟩ (.cons ⟨rfl, .same _⟩ (.cons ⟨rfl, array_edited_iff.mpr (.cons used .nil)⟩ .nil))
    · exact (List.reverse_perm (entry reuse)).symm
    · simp [reentry, entry]
  have styled : Edited .style (.object style) (.object style.reverse) := by
    apply edited_of_rearranged style (unchanged style)
    · exact (List.reverse_perm style).symm
    · simp [style]
  have edit : Edited .document value other := by
    apply edited_of_rearranged (document style.reverse reentry)
    · exact .cons ⟨rfl, .same _⟩ (.cons ⟨rfl, styled⟩ (.cons ⟨rfl, array_edited_iff.mpr (.cons entered .nil)⟩ .nil))
    · exact .refl _
    · simp [document]
  have plain : Plain value := by
    simp [value, document, style, entry, use, plain_object_iff, plain_array_iff, Plain.string, Plain.bool, Plain.null]
  have replain : Plain other := by
    simp [other, document, style, entry, use, plain_object_iff, plain_array_iff, Plain.string, Plain.bool, Plain.null]
  obtain ⟨descriptor, accepted⟩ : ∃ descriptor, Descriptor.ofJson "d" value = .ok descriptor := ⟨_, rfl⟩
  have parsed : Descriptor.parse "d" (String.ofList (write value)) = .ok descriptor := by
    rw [Descriptor.parse, read_write plain]
    exact accepted
  have reparsed := ((parse_ignores_key_order (read_write plain) (read_write replain) edit).1 descriptor).mp parsed
  exact ⟨edit, _, _, read_write plain, read_write replain, descriptor, parsed, reparsed⟩

/-- Two settings of the wrong type. Each document names the one that it gives first. -/
example :
    Descriptor.parse "d" "\x7b\"style\":\x7b\"field_name_prefix\":1,\"field_name_suffix\":2\x7d\x7d" =
        .error (.configuration (.settingOfWrongType .fieldPrefix)) ∧
      Descriptor.parse "d" "\x7b\"style\":\x7b\"field_name_suffix\":2,\"field_name_prefix\":1\x7d\x7d" =
        .error (.configuration (.settingOfWrongType .fieldSuffix)) := by
  constructor <;> decide +kernel

end ParamBundle.Proofs.KeyOrder
