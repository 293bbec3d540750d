import ParamBundle.Draft
import Mathlib.Data.List.Nodup
import Mathlib.Data.List.Pairwise
import Mathlib.Logic.Function.Basic

/-! What the assignments of a generated class store where. A name without a qualifier
belongs to a parameter of the method if it has one of that name, so an assignment can miss
its field. Each assignment guards against its own parameter alone; whether that is enough
depends on the parameters of all other fields. -/

namespace ParamBundle.Proofs.AssignmentScope

variable {α : Type}

structure Scope (α : Type) where
  parameters : String → Option α
  fields : String → α

namespace Scope

def value (scope : Scope α) (name : String) : α :=
  (scope.parameters name).getD (scope.fields name)

/-- The left side is the name of a parameter, not of the field it is meant for. -/
def Hides (scope : Scope α) (assignment : Assignment) : Prop :=
  assignment.qualified = false ∧ (scope.parameters assignment.field).isSome = true

instance (scope : Scope α) (assignment : Assignment) : Decidable (scope.Hides assignment) :=
  inferInstanceAs (Decidable (_ ∧ _))

def execute (scope : Scope α) (assignment : Assignment) : Scope α :=
  let value := scope.value assignment.parameter
  if scope.Hides assignment then
    { scope with parameters := Function.update scope.parameters assignment.field (some value) }
  else { scope with fields := Function.update scope.fields assignment.field value }

end Scope

structure Method where
  parameters : List String
  body : List Assignment

namespace Method

def lines (method : Method) : List String := method.body.map fun assignment => "\t\t" ++ assignment.text

def enter (method : Method) (arguments : List α) (fields : String → α) : Scope α :=
  { parameters := fun name => (method.parameters.zip arguments).lookup name, fields }

def call (method : Method) (arguments : List α) (fields : String → α) : String → α :=
  (method.body.foldl Scope.execute (method.enter arguments fields)).fields

/-- An assignment whose left side, as it is written, is a parameter of the method. -/
def Captures (method : Method) (assignment : Assignment) : Prop :=
  assignment.qualified = false ∧ assignment.field ∈ method.parameters

end Method

def constructor (members : List Member) : Method :=
  { parameters := members.map (·.parameterName), body := members.map (·.assignment) }

def setter (member : Member) : Method := constructor [member]

/-- Neither field is named like the parameter of the other. -/
def Apart (one other : Member) : Prop :=
  one.fieldName ≠ other.parameterName ∧ other.fieldName ≠ one.parameterName

instance : Std.Symm Apart := ⟨fun _ _ apart => ⟨apart.2, apart.1⟩⟩

def Separate (members : List Member) : Prop := members.Pairwise Apart

section Run
variable {assignments : List Assignment} {scope : Scope α}

theorem execute_hidden {assignment : Assignment} (hidden : scope.Hides assignment) :
    (scope.execute assignment).fields = scope.fields := by
  simp [Scope.execute, hidden]

theorem execute_visible {assignment : Assignment} (visible : ¬ scope.Hides assignment) :
    scope.execute assignment =
      { scope with
        fields := Function.update scope.fields assignment.field (scope.value assignment.parameter) } := by
  simp [Scope.execute, visible]

/-- Running a statement never adds or removes a parameter. -/
theorem execute_keeps_bound (assignment : Assignment) (name : String) :
    ((scope.execute assignment).parameters name).isSome = (scope.parameters name).isSome := by
  by_cases hidden : scope.Hides assignment
  · by_cases same : name = assignment.field
    · simp [Scope.execute, hidden, same, hidden.2]
    · simp [Scope.execute, hidden, same]
  · rw [execute_visible hidden]

theorem run_visible (visible : ∀ assignment ∈ assignments, ¬ scope.Hides assignment) :
    (assignments.foldl Scope.execute scope).parameters = scope.parameters ∧
    ∀ name, (∀ assignment ∈ assignments, assignment.field ≠ name) →
      (assignments.foldl Scope.execute scope).fields name = scope.fields name := by
  induction assignments generalizing scope with
  | nil => simp
  | cons first rest ih =>
    simp only [List.forall_mem_cons] at visible ⊢
    have unhidden : ∀ assignment ∈ rest, ¬ (scope.execute first).Hides assignment := by
      rw [execute_visible visible.1]
      exact visible.2
    obtain ⟨parameters, fields⟩ := ih unhidden
    rw [List.foldl_cons]
    refine ⟨by rw [parameters, execute_visible visible.1], ?_⟩
    rintro name ⟨other, others⟩
    rw [fields name others, execute_visible visible.1]
    exact Function.update_of_ne (Ne.symm other) _ _

/-- Where no assignment is hidden, each field ends up with the value that its parameter
had at the beginning. -/
theorem run_stores (visible : ∀ assignment ∈ assignments, ¬ scope.Hides assignment)
    (bound : ∀ assignment ∈ assignments, (scope.parameters assignment.parameter).isSome = true)
    (distinct : (assignments.map (·.field)).Nodup) {assignment : Assignment}
    (member : assignment ∈ assignments) :
    (assignments.foldl Scope.execute scope).fields assignment.field = scope.value assignment.parameter := by
  induction assignments generalizing scope with
  | nil => cases member
  | cons first rest ih =>
    simp only [List.forall_mem_cons] at visible bound
    simp only [List.map_cons, List.nodup_cons, List.mem_map, not_exists, not_and] at distinct
    have unhidden : ∀ later ∈ rest, ¬ (scope.execute first).Hides later := by
      rw [execute_visible visible.1]
      exact visible.2
    rw [List.foldl_cons]
    rcases List.mem_cons.mp member with rfl | member
    · rw [(run_visible unhidden).2 _ distinct.1, execute_visible visible.1]
      exact Function.update_self ..
    · have stillBound : ∀ later ∈ rest, ((scope.execute first).parameters later.parameter).isSome = true := by
        intro later inside
        rw [execute_keeps_bound]
        exact bound.2 later inside
      rw [ih unhidden stillBound distinct.2 member, execute_visible visible.1]
      obtain ⟨held, found⟩ := Option.isSome_iff_exists.mp (bound.2 assignment member)
      simp [Scope.value, found]

/-- A field is never written when all assignments meant for it reach a parameter. -/
theorem run_misses {name : String} (bound : (scope.parameters name).isSome = true)
    (plain : ∀ assignment ∈ assignments, assignment.field = name → assignment.qualified = false) :
    (assignments.foldl Scope.execute scope).fields name = scope.fields name := by
  induction assignments generalizing scope with
  | nil => rfl
  | cons first rest ih =>
    simp only [List.forall_mem_cons] at plain
    rw [List.foldl_cons, ih (by rw [execute_keeps_bound]; exact bound) plain.2]
    by_cases same : first.field = name
    · subst name
      rw [execute_hidden ⟨plain.1 rfl, bound⟩]
    · by_cases hidden : scope.Hides first
      · rw [execute_hidden hidden]
      · rw [execute_visible hidden]
        exact Function.update_of_ne (Ne.symm same) _ _

end Run

section Calls
variable {method : Method} {arguments : List α} {fields : String → α}

private theorem lookup_zip {names : List String} {arguments : List α} (distinct : names.Nodup) {index : Nat}
    (inside : index < names.length) (given : index < arguments.length) :
    (names.zip arguments).lookup names[index] = some arguments[index] := by
  induction names generalizing arguments index with
  | nil => simp at inside
  | cons first rest ih =>
    cases arguments with
    | nil => simp at given
    | cons value values =>
      cases index with
      | zero => simp
      | succ index =>
        have short : index < rest.length := by simpa using inside
        have different : rest[index] ≠ first := by
          rintro rfl
          exact (List.nodup_cons.mp distinct).1 (List.getElem_mem short)
        simp only [List.zip_cons_cons, List.getElem_cons_succ, List.lookup_cons, beq_eq_false_iff_ne.mpr different]
        exact ih (List.nodup_cons.mp distinct).2 short (by simpa using given)

theorem bound_iff (enough : arguments.length = method.parameters.length) {name : String} :
    ((method.enter arguments fields).parameters name).isSome = true ↔ name ∈ method.parameters := by
  have names : (method.parameters.zip arguments).map Prod.fst = method.parameters :=
    List.map_fst_zip (by omega)
  simp only [Method.enter, List.lookup_isSome_iff, beq_iff_eq, @eq_comm _ name]
  rw [← List.mem_map, names]

theorem hides_iff_captures (enough : arguments.length = method.parameters.length) {assignment : Assignment} :
    (method.enter arguments fields).Hides assignment ↔ method.Captures assignment :=
  and_congr_right fun _ => bound_iff enough

end Calls

section Constructors
variable {members : List Member}

private theorem constructor_body : (constructor members).body = members.map (·.assignment) := rfl

theorem captures_iff {member : Member} :
    (constructor members).Captures member.assignment ↔
      member.fieldName ≠ member.parameterName ∧ ∃ other ∈ members, other.parameterName = member.fieldName := by
  simp [Method.Captures, constructor, Member.assignment]

/-- With distinct parameters, an assignment is captured exactly by the parameter of some
other field: its own is always told apart. -/
theorem no_capture_iff_separate (parameters : (members.map (·.parameterName)).Nodup) :
    (∀ assignment ∈ (constructor members).body, ¬ (constructor members).Captures assignment) ↔
      Separate members := by
  simp only [constructor_body, List.forall_mem_map, captures_iff, not_and, not_exists]
  constructor
  · intro free
    refine (List.pairwise_map.mp parameters).imp_of_mem fun {one other} first second different => ⟨?_, ?_⟩
    · intro same
      have own : one.fieldName = one.parameterName :=
        Decidable.byContradiction fun foreign => free one first foreign other second same.symm
      exact different (own.symm.trans same)
    · intro same
      have own : other.fieldName = other.parameterName :=
        Decidable.byContradiction fun foreign => free other second foreign one first same.symm
      exact different (same.symm.trans own)
  · intro separate one first foreign other second same
    have different : one ≠ other := by
      rintro rfl
      exact foreign same.symm
    exact (separate.forall first second different).1 same.symm

/-- The constructor stores every argument in its field, whatever the fields held before. -/
def Initializes (members : List Member) : Prop :=
  ∀ (α : Type) (before : String → α) (arguments : List α) (enough : arguments.length = members.length)
    (index : Nat) (inside : index < members.length),
    (constructor members).call arguments before members[index].fieldName = arguments[index]

theorem initializes_of_separate (fields : (members.map (·.fieldName)).Nodup)
    (parameters : (members.map (·.parameterName)).Nodup) (separate : Separate members) :
    Initializes members := by
  intro α before arguments enough index inside
  have counted : arguments.length = (constructor members).parameters.length := by simpa [constructor] using enough
  have visible : ∀ assignment ∈ (constructor members).body,
      ¬ ((constructor members).enter arguments before).Hides assignment := by
    intro assignment member
    rw [hides_iff_captures counted]
    exact (no_capture_iff_separate parameters).mpr separate assignment member
  have bound : ∀ assignment ∈ (constructor members).body,
      (((constructor members).enter arguments before).parameters assignment.parameter).isSome = true := by
    simp only [bound_iff counted, constructor_body, List.forall_mem_map]
    exact fun member present => List.mem_map_of_mem present
  have distinct : ((constructor members).body.map (·.field)).Nodup := by
    simpa [constructor, Function.comp_def, Member.assignment] using fields
  have given : ((constructor members).enter arguments before).parameters members[index].parameterName =
      some arguments[index] := by
    have short : index < (members.map (·.parameterName)).length := by simpa using inside
    simpa [Method.enter, constructor] using lookup_zip parameters short (enough ▸ inside)
  have stored := run_stores visible bound distinct (List.mem_map_of_mem (List.getElem_mem inside))
  calc (constructor members).call arguments before members[index].fieldName
      = ((constructor members).enter arguments before).value members[index].parameterName := stored
    _ = arguments[index] := by simp [Scope.value, given]

/-- A captured assignment leaves its field alone, since no other one is meant for it. -/
theorem separate_of_initializes (fields : (members.map (·.fieldName)).Nodup)
    (parameters : (members.map (·.parameterName)).Nodup) (initializes : Initializes members) :
    Separate members := by
  rw [← no_capture_iff_separate parameters]
  simp only [constructor_body, List.forall_mem_map]
  intro member present captured
  have plain : ∀ assignment ∈ (constructor members).body,
      assignment.field = member.fieldName → assignment.qualified = false := by
    simp only [constructor_body, List.forall_mem_map]
    intro other another same
    obtain rfl : other = member := List.inj_on_of_nodup_map fields another present same
    exact captured.1
  obtain ⟨index, inside, rfl⟩ := List.getElem_of_mem present
  let before : String → Bool := fun _ => false
  let arguments := List.replicate members.length true
  have counted : arguments.length = (constructor members).parameters.length := by
    simp [arguments, constructor]
  have bound : (((constructor members).enter arguments before).parameters members[index].fieldName).isSome = true :=
    (bound_iff counted).mpr captured.2
  have missed : (constructor members).call arguments before members[index].fieldName = false :=
    run_misses bound plain
  rw [initializes Bool before arguments (by simp [arguments]) index inside] at missed
  simp [arguments] at missed

end Constructors

private theorem setter_separate (member : Member) : Separate [member] := List.pairwise_singleton ..

/-- A setter has no parameter but its own, so it always writes its field and nothing else. -/
theorem setter_call (member : Member) (argument : α) (before : String → α) :
    (setter member).call [argument] before = Function.update before member.fieldName argument := by
  have counted : [argument].length = (setter member).parameters.length := by simp [setter, constructor]
  have visible : ¬ ((setter member).enter [argument] before).Hides member.assignment := by
    rw [hides_iff_captures counted]
    exact (no_capture_iff_separate (by simp)).mpr (setter_separate member) _ (by simp [constructor])
  have taken : ((setter member).enter [argument] before).value member.assignment.parameter = argument := by
    simp [Scope.value, Method.enter, setter, constructor, Member.assignment]
  calc (setter member).call [argument] before
      = (((setter member).enter [argument] before).execute member.assignment).fields := rfl
    _ = Function.update before member.fieldName argument := by
      rw [execute_visible visible, taken]
      rfl

/-- The constructor of a rendered class stores every argument in its own field exactly when
no field is named like the parameter of another field; then and only then is none of its
assignments captured. Setters always do. -/
theorem constructor_initializes_iff {draft : Draft} {model : ClassModel} (settled : draft.classModel = .ok model)
    (fields : (model.members.map (·.fieldName)).Nodup)
    (parameters : (model.members.map (·.parameterName)).Nodup) :
    draft.render = .ok model.text ∧
    model.constructorLines =
      ["", model.constructorLine] ++ (constructor model.members).lines ++ ["\t\x7d"] ∧
    ((∀ assignment ∈ (constructor model.members).body,
      ¬ (constructor model.members).Captures assignment) ↔ Separate model.members) ∧
    (Initializes model.members ↔ Separate model.members) ∧
    ∀ member ∈ model.members, member.setterRequired = true →
      member.setterLines = ["", "\tpublic void " ++ member.setterName ++ "(" ++ member.declaration ++ ")\x7b"] ++
        (setter member).lines ++ ["\t\x7d"] ∧
      (∀ assignment ∈ (setter member).body, ¬ (setter member).Captures assignment) ∧
      ∀ (α : Type) (argument : α) (before : String → α),
        (setter member).call [argument] before = Function.update before member.fieldName argument := by
  refine ⟨by rw [Draft.render, settled]; rfl, ?_, no_capture_iff_separate parameters,
    ⟨separate_of_initializes fields parameters, initializes_of_separate fields parameters⟩, ?_⟩
  · simp [ClassModel.constructorLines, Method.lines, constructor, Member.assignmentLine]
  · intro member _ required
    refine ⟨?_, ?_, fun α argument before => setter_call member argument before⟩
    · simp [Member.setterLines, required, Method.lines, setter, constructor, Member.assignmentLine]
    · exact (no_capture_iff_separate (by simp)).mpr (setter_separate member)

/-- Both fields of this class share their names with their parameters. -/
theorem point_constructor_initializes :
    let int (name : String) : FieldSpec := { parameter := { name, typeText := "int" } }
    let draft : Draft := { className := "Point", packageName := "", style := some {}, fields := [int "x", int "y"] }
    ∃ model, draft.classModel = .ok model ∧ Separate model.members ∧ Initializes model.members := by
  intro int draft
  let member (name capitalized : String) : Member :=
    { fieldName := name, parameterName := name, capitalizedName := capitalized, declarationType := "int",
      storageType := "int", isBoolean := false, annotations := "", documentation := none,
      finalParameter := false, setterRequired := false }
  let model : ClassModel :=
    { packageName := "", className := "Point", typeParameters := [], members := [member "x" "X", member "y" "Y"] }
  have settled : draft.classModel = .ok model := by decide
  have separate : Separate model.members := by simp [Separate, Apart, model, member]
  obtain ⟨-, -, -, initializes, -⟩ :=
    constructor_initializes_iff settled (by simp [model, member]) (by simp [model, member])
  exact ⟨model, settled, separate, initializes.mpr separate⟩

/-- With the field prefix `m`, the field of `x` is named like the parameter `mx`. The first
assignment of the constructor overwrites that parameter, so the first field keeps what it
held and the second one gets the first argument. -/
theorem prefixed_field_is_captured :
    let int (name : String) : FieldSpec := { parameter := { name, typeText := "int" } }
    let draft : Draft :=
      { className := "P", packageName := "", style := some { fieldPrefix := "m" }, fields := [int "x", int "mx"] }
    ∃ model, draft.classModel = .ok model ∧
      model.members.map (·.fieldName) = ["mx", "mmx"] ∧ model.members.map (·.parameterName) = ["x", "mx"] ∧
      (constructor model.members).lines = ["\t\tmx = x;", "\t\tmmx = mx;"] ∧
      (∃ assignment ∈ (constructor model.members).body, (constructor model.members).Captures assignment) ∧
      (constructor model.members).call [1, 2] (fun _ => 0) "mx" = 0 ∧
      (constructor model.members).call [1, 2] (fun _ => 0) "mmx" = 1 := by
  intro int draft
  let member (field parameter capitalized : String) : Member :=
    { fieldName := field, parameterName := parameter, capitalizedName := capitalized, declarationType := "int",
      storageType := "int", isBoolean := false, annotations := "", documentation := none,
      finalParameter := false, setterRequired := false }
  let model : ClassModel :=
    { packageName := "", className := "P", typeParameters := [],
      members := [member "mx" "x" "X", member "mmx" "mx" "Mx"] }
  have settled : draft.classModel = .ok model := by decide
  refine ⟨model, settled, rfl, rfl, by decide, ?_, by decide, by decide⟩
  exact ⟨(member "mx" "x" "X").assignment, by simp [constructor, model], by decide, by decide⟩

end ParamBundle.Proofs.AssignmentScope
