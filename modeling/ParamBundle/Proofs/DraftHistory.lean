import ParamBundle.Proofs.ClassSettings
import ParamBundle.Proofs.DottedNames

/-! What a draft keeps of the calls made on it: for each setting what the last accepted call
of its kind gave, and the fields in the order in which they were added. Refused calls and
renderings leave nothing behind, and calls of different kinds never get in each other's way. -/

namespace ParamBundle.Proofs.DraftHistory
open ClassSettings DottedNames Draft Traversal

variable {draft : Draft} {call : Call}

def fresh (style : Option Style) : Draft := { style }

def after (draft : Draft) (calls : List Call) : Draft := ((draft.run calls).getLast?.map (·.2)).getD draft

def Accepts (draft : Draft) (call : Call) : Prop := ∃ done, draft.apply call = .ok done

instance (draft : Draft) (call : Call) : Decidable (Accepts draft call) :=
  match answered : draft.apply call with
  | .ok done => isTrue ⟨done, answered⟩
  | .error _ => isFalse fun ⟨_, accepted⟩ => nomatch answered.symm.trans accepted

/-- The calls that were answered without a fault, each by the draft it was made on. -/
def accepted (draft : Draft) : List Call → List Call
  | [] => []
  | call :: calls =>
    let rest := accepted (draft.step call).2 calls
    if Accepts draft call then call :: rest else rest

/-- The part of a draft that a call is about. A rendering is about none. -/
inductive Kind where
  | className
  | packageName
  | typeParameters
  | style
  | fields
deriving DecidableEq

def kind? : Call → Option Kind
  | .setClassName _ => some .className
  | .setPackageName _ => some .packageName
  | .setTypeParameters _ => some .typeParameters
  | .setStyle _ => some .style
  | .addField _ => some .fields
  | .render => none

def classNameOf? : Call → Option String
  | .setClassName value => value.string?
  | _ => none

def packageNameOf? : Call → Option String
  | .setPackageName value => value.string?
  | _ => none

def typeParametersOf? : Call → Option (List String)
  | .setTypeParameters value => offered? value
  | _ => none

def styleOf? : Call → Option (Option Style)
  | .setStyle style => some style
  | _ => none

def fieldOf? : Call → Option FieldSpec
  | .addField field => some field
  | _ => none

def given (draft : Draft) : Call → Draft
  | .setClassName value => { draft with className := value.string?.or draft.className }
  | .setPackageName value => { draft with packageName := value.string?.or draft.packageName }
  | .setTypeParameters value => { draft with typeParameters := (offered? value).getD draft.typeParameters }
  | .setStyle style => { draft with style }
  | .addField field => { draft with fields := draft.fields ++ [field] }
  | .render => draft

private theorem given_eq (draft : Draft) (call : Call) :
    given draft call =
      { className := (classNameOf? call).or draft.className
        packageName := (packageNameOf? call).or draft.packageName
        typeParameters := (typeParametersOf? call).getD draft.typeParameters
        style := (styleOf? call).getD draft.style
        fields := draft.fields ++ (fieldOf? call).toList } := by
  cases call <;> simp [given, classNameOf?, packageNameOf?, typeParametersOf?, styleOf?, fieldOf?]

/-- All that an accepted call does. -/
theorem apply_ok {done : Option String × Draft} (answered : draft.apply call = .ok done) : done.2 = given draft call := by
  cases call with
  | setClassName value =>
    obtain ⟨_, made, rfl⟩ := map_ok_iff.mp answered
    obtain ⟨name, rfl, -, rfl⟩ := setClassName_ok_iff.mp made
    rfl
  | setPackageName value =>
    obtain ⟨_, made, rfl⟩ := map_ok_iff.mp answered
    obtain ⟨package, rfl, -, rfl⟩ := setPackageName_ok_iff.mp made
    rfl
  | setTypeParameters value =>
    obtain ⟨_, made, rfl⟩ := map_ok_iff.mp answered
    obtain ⟨texts, offers, -, rfl⟩ := setTypeParameters_ok_iff.mp made
    simp [given, offers]
  | setStyle style =>
    cases answered
    rfl
  | addField field =>
    cases answered
    rfl
  | render =>
    obtain ⟨_, _, rfl⟩ := map_ok_iff.mp answered
    rfl

private theorem step_accepted (accepts : Accepts draft call) : (draft.step call).2 = given draft call := by
  obtain ⟨done, answered⟩ := accepts
  rw [Draft.step, answered]
  exact apply_ok answered

private theorem step_refused (refused : ¬ Accepts draft call) : (draft.step call).2 = draft := by
  unfold Draft.step
  split
  next answered => exact absurd ⟨_, answered⟩ refused
  next => rfl

private theorem after_cons (draft : Draft) (call : Call) (calls : List Call) :
    after draft (call :: calls) = after (draft.step call).2 calls := by
  cases last : ((draft.step call).2.run calls).getLast? <;> simp [after, Draft.run, List.getLast?_cons, last]

theorem after_append (draft : Draft) (calls later : List Call) :
    after draft (calls ++ later) = after (after draft calls) later := by
  induction calls generalizing draft with
  | nil => rfl
  | cons call calls ih => rw [List.cons_append, after_cons, after_cons, ih]

theorem run_append (draft : Draft) (calls later : List Call) :
    draft.run (calls ++ later) = draft.run calls ++ (after draft calls).run later := by
  induction calls generalizing draft with
  | nil => rfl
  | cons call calls ih => simp only [List.cons_append, Draft.run, ih, after_cons]

theorem length_run (draft : Draft) (calls : List Call) : (draft.run calls).length = calls.length := by
  induction calls generalizing draft with
  | nil => rfl
  | cons call calls ih => simp only [Draft.run, List.length_cons, ih]

/-- What the later calls answer is up to the draft they find. -/
theorem drop_run (draft : Draft) (calls later : List Call) :
    (draft.run (calls ++ later)).drop calls.length = (after draft calls).run later := by
  rw [run_append, ← length_run draft calls, List.drop_left]

private theorem getLast?_filterMap_cons {α β : Type} (value : α → Option β) (item : α) (items : List α) :
    ((item :: items).filterMap value).getLast? = ((items.filterMap value).getLast?).or (value item) := by
  cases given : value item with
  | none => simp [given]
  | some first => cases last : (items.filterMap value).getLast? <;> simp [given, List.getLast?_cons, last]

/-- The induction over a run of calls: the last value of each kind stays, fields add up. -/
theorem after_eq (draft : Draft) (calls : List Call) :
    after draft calls =
      { className := (((accepted draft calls).filterMap classNameOf?).getLast?).or draft.className
        packageName := (((accepted draft calls).filterMap packageNameOf?).getLast?).or draft.packageName
        typeParameters := (((accepted draft calls).filterMap typeParametersOf?).getLast?).getD draft.typeParameters
        style := (((accepted draft calls).filterMap styleOf?).getLast?).getD draft.style
        fields := draft.fields ++ (accepted draft calls).filterMap fieldOf? } := by
  induction calls generalizing draft with
  | nil => simp [after, Draft.run, accepted]
  | cons call calls ih =>
    rw [after_cons, ih]
    by_cases accepts : Accepts draft call
    · simp only [accepted, accepts, if_true, step_accepted accepts, given_eq, getLast?_filterMap_cons, Option.or_assoc,
        Option.getD_or]
      cases added : fieldOf? call with
      | none => simp [added]
      | some field => simp [added]
    · simp only [accepted, accepts, if_false, step_refused accepts]

/-- What a rendering answers depends on the draft; all other calls are judged by what they give. -/
theorem accepts_anywhere (draft other : Draft) (about : (kind? call).isSome = true) :
    Accepts draft call ↔ Accepts other call := by
  cases call with
  | setClassName value => simp [Accepts, Draft.apply, map_ok_iff, setClassName_ok_iff]
  | setPackageName value => simp [Accepts, Draft.apply, map_ok_iff, setPackageName_ok_iff]
  | setTypeParameters value => simp [Accepts, Draft.apply, map_ok_iff, setTypeParameters_ok_iff]
  | setStyle style => simp [Accepts, Draft.apply]
  | addField field => simp [Accepts, Draft.apply]
  | render => cases about

def ofKind (kind : Kind) (calls : List Call) : List Call := calls.filter (kind? · = some kind)

/-- Accepted values of one kind come from the calls of that kind alone. -/
theorem filterMap_accepted {α : Type} {value : Call → Option α} {kind : Kind}
    (about : ∀ call, kind? call ≠ some kind → value call = none) (draft other : Draft) (calls : List Call) :
    (accepted draft calls).filterMap value = ((ofKind kind calls).filter (Accepts other ·)).filterMap value := by
  induction calls generalizing draft with
  | nil => rfl
  | cons call calls ih =>
    by_cases same : kind? call = some kind
    · have judged : Accepts draft call ↔ Accepts other call := accepts_anywhere draft other (by simp [same])
      by_cases accepts : Accepts draft call
      · simp [accepted, ofKind, same, accepts, judged.mp accepts, List.filterMap_cons, ih, ofKind]
      · simp [accepted, ofKind, same, accepts, mt judged.mpr accepts, ih, ofKind]
    · by_cases accepts : Accepts draft call
      · simp [accepted, ofKind, same, accepts, about call same, ih, ofKind]
      · simp [accepted, ofKind, same, accepts, ih, ofKind]

/-- The induction over a run, for any interleaving of the kinds. -/
theorem after_congr (draft : Draft) (calls later : List Call) (same : ∀ kind, ofKind kind calls = ofKind kind later) :
    after draft calls = after draft later := by
  have agree {α : Type} (value : Call → Option α) (kind : Kind)
      (about : ∀ call, kind? call ≠ some kind → value call = none) :
      (accepted draft calls).filterMap value = (accepted draft later).filterMap value := by
    rw [filterMap_accepted about draft draft, filterMap_accepted about draft draft, same kind]
  rw [after_eq, after_eq, agree classNameOf? .className, agree packageNameOf? .packageName,
    agree typeParametersOf? .typeParameters, agree styleOf? .style, agree fieldOf? .fields]
  all_goals
    intro call foreign
    cases call <;> simp_all [kind?, classNameOf?, packageNameOf?, typeParametersOf?, styleOf?, fieldOf?]

/-- No field is ever refused. -/
theorem filterMap_fieldOf? (draft : Draft) (calls : List Call) :
    (accepted draft calls).filterMap fieldOf? = calls.filterMap fieldOf? := by
  induction calls generalizing draft with
  | nil => rfl
  | cons call calls ih =>
    by_cases accepts : Accepts draft call
    · simp [accepted, accepts, List.filterMap_cons, ih]
    · have absent : fieldOf? call = none := by
        cases call <;> simp_all [fieldOf?, Accepts, Draft.apply]
      simp [accepted, accepts, absent, ih]

/-- A call that leaves the draft alone: it renders, or it is refused. -/
def Idle (draft : Draft) (call : Call) : Prop := call = .render ∨ ∃ fault, (draft.step call).1 = .error fault

theorem Idle.step (idle : Idle draft call) : (draft.step call).2 = draft := by
  obtain rfl | ⟨fault, refused⟩ := idle
  · by_cases accepts : Accepts draft .render
    · exact step_accepted accepts
    · exact step_refused accepts
  · apply step_refused
    rintro ⟨done, answered⟩
    rw [Draft.step, answered] at refused
    cases refused

theorem after_idle {draft : Draft} {calls : List Call} (idle : ∀ call ∈ calls, Idle draft call) :
    after draft calls = draft := by
  induction calls with
  | nil => rfl
  | cons call calls ih =>
    obtain ⟨first, rest⟩ := List.forall_mem_cons.mp idle
    rw [after_cons, first.step, ih rest]

structure Settled (draft : Draft) : Prop where
  className : ∀ name, draft.className = some name → isIdentifier name = true
  packageName : ∀ package, draft.packageName = some package → package = "" ∨ IsDotted package
  typeParameters : ∀ text ∈ draft.typeParameters, Text.isBlank text = false

theorem Settled.step (settled : Settled draft) (call : Call) : Settled (draft.step call).2 := by
  by_cases accepts : Accepts draft call
  · rw [step_accepted accepts]
    obtain ⟨done, answered⟩ := accepts
    cases call with
    | setClassName value =>
      obtain ⟨_, made, -⟩ := map_ok_iff.mp answered
      obtain ⟨name, rfl, good, -⟩ := setClassName_ok_iff.mp made
      exact { settled with className := by rintro _ ⟨⟩; exact good }
    | setPackageName value =>
      obtain ⟨_, made, -⟩ := map_ok_iff.mp answered
      obtain ⟨package, rfl, good, -⟩ := setPackageName_ok_iff.mp made
      exact { settled with packageName := by rintro _ ⟨⟩; exact good.imp_right isDottedIdentifier_iff.mp }
    | setTypeParameters value =>
      obtain ⟨_, made, -⟩ := map_ok_iff.mp answered
      obtain ⟨texts, offers, visible, -⟩ := setTypeParameters_ok_iff.mp made
      exact { settled with typeParameters := by simpa only [given, offers, Option.getD_some] using visible }
    | setStyle _ | addField _ | render => exact { settled with }
  · rw [step_refused accepts]
    exact settled

theorem Settled.after (settled : Settled draft) (calls : List Call) : Settled (after draft calls) := by
  induction calls generalizing draft with
  | nil => exact settled
  | cons call calls ih =>
    rw [after_cons]
    exact ih (settled.step call)

theorem settled_fresh (style : Option Style) : Settled (fresh style) := ⟨nofun, nofun, nofun⟩

def Reachable (draft : Draft) : Prop := ∃ style calls, draft = after (fresh style) calls

theorem Reachable.settled (reachable : Reachable draft) : Settled draft := by
  obtain ⟨style, calls, rfl⟩ := reachable
  exact (settled_fresh style).after calls

/-- What a draft keeps of the calls made on it, whatever they are and in whatever order they
come: an idle call can be put in or left out anywhere, and only calls of the same kind need
to stay in order. -/
structure KeepsLastWrites (start : Draft) (calls : List Call) : Prop where
  className :
    (after start calls).className = (((accepted start calls).filterMap classNameOf?).getLast?).or start.className
  packageName :
    (after start calls).packageName = (((accepted start calls).filterMap packageNameOf?).getLast?).or start.packageName
  typeParameters : (after start calls).typeParameters =
    (((accepted start calls).filterMap typeParametersOf?).getLast?).getD start.typeParameters
  style : (after start calls).style = (((accepted start calls).filterMap styleOf?).getLast?).getD start.style
  fields : (after start calls).fields = start.fields ++ calls.filterMap fieldOf?
  idle : ∀ before idle later, calls = before ++ later → (∀ call ∈ idle, Idle (after start before) call) →
    after start (before ++ idle ++ later) = after start calls ∧
      (start.run (before ++ idle ++ later)).drop (before ++ idle).length = (start.run calls).drop before.length
  interleaving : ∀ other, (∀ kind, ofKind kind other = ofKind kind calls) →
    after start other = after start calls ∧
      (start.run (other ++ [.render])).getLast? = (start.run (calls ++ [.render])).getLast?

theorem keepsLastWrites (start : Draft) (calls : List Call) : KeepsLastWrites start calls where
  className := by rw [after_eq]
  packageName := by rw [after_eq]
  typeParameters := by rw [after_eq]
  style := by rw [after_eq]
  fields := by rw [after_eq, filterMap_fieldOf?]
  idle := by
    rintro before idle later rfl quiet
    have unmoved : after start (before ++ idle) = after start before := by rw [after_append, after_idle quiet]
    refine ⟨by rw [after_append, unmoved, after_append], ?_⟩
    rw [drop_run, drop_run, unmoved]
  interleaving := by
    intro other same
    have unmoved := after_congr start other calls same
    refine ⟨unmoved, ?_⟩
    rw [run_append, run_append, unmoved]
    simp [Draft.run]

/-- The last accepted call of each kind decides, fields are never lost, and no name or type
parameter that a draft can come to hold is malformed. -/
theorem draft_keeps_last_writes (calls : List Call) :
    (∀ start, KeepsLastWrites start calls) ∧ ∀ style, Settled (after (fresh style) calls) :=
  ⟨fun start => keepsLastWrites start calls, fun style => (settled_fresh style).after calls⟩

end ParamBundle.Proofs.DraftHistory
