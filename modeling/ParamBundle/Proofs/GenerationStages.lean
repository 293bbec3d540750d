import ParamBundle.Descriptor.Reader
import ParamBundle.Proofs.ClassSettings
import ParamBundle.Proofs.DescriptorSchema
import ParamBundle.Proofs.DottedNames
import ParamBundle.Proofs.RenderFaults

/-! From the text of a descriptor to the text of a class. The stages validate different
things: reading the descriptor lets a blank type or type parameter pass, which only the
draft refuses. Together they answer for every input, and the first stage that refuses its
own input decides the fault. -/

namespace ParamBundle.Proofs.GenerationStages
open ClassSettings DescriptorSchema DottedNames RenderFaults Traversal

variable {source text : String} {className packageName : Json} {package : Option Json}
  {descriptor : Descriptor} {fault : Fault}

/-- The package of the class. A package that was given goes before the descriptor's own,
even when it is no package at all. -/
def packageOf (descriptor : Descriptor) (package : Option Json) : Json :=
  package.getD (.string descriptor.packageName)

def generate (source text : String) (className : Json) (package : Option Json) : Except Fault String := do
  let descriptor ← Descriptor.parse source text
  descriptor.render className (packageOf descriptor package)

def IsClassName (value : Json) : Prop := ∃ name, value = .string name ∧ isIdentifier name = true

def IsPackageName (value : Json) : Prop := ∃ package, value = .string package ∧ (package = "" ∨ IsDotted package)

def Visible (texts : List String) : Prop := ∀ text ∈ texts, Text.isBlank text = false

/-- The faults of a descriptor under the names it is given, in the order in which they are
looked for. No case says anything about what a later one looks at. -/
inductive Refused (descriptor : Descriptor) (className packageName : Json) : Fault → Prop where
  | className (misnamed : ¬ IsClassName className) :
      Refused descriptor className packageName (.configuration (.invalidClassName className.display))
  | packageName (named : IsClassName className) (misplaced : ¬ IsPackageName packageName) :
      Refused descriptor className packageName (.configuration (packageFault packageName))
  | typeParameters (named : IsClassName className) (placed : IsPackageName packageName)
      (blank : ¬ Visible descriptor.typeParameters) :
      Refused descriptor className packageName (.configuration .blankTypeParameter)
  | field {before later : List FieldSpec} {spec : FieldSpec} {cause : ParameterFault}
      (named : IsClassName className) (placed : IsPackageName packageName) (visible : Visible descriptor.typeParameters)
      (shape : descriptor.fields = before ++ spec :: later)
      (fine : ∀ earlier ∈ before, ¬ IllFormed descriptor.style earlier.parameter)
      (blamed : Blamed descriptor.style spec.parameter cause) :
      Refused descriptor className packageName (.malformed spec.parameter.name cause)

inductive FirstFailure (source text : String) (className : Json) (package : Option Json) : Fault → Prop where
  | unread {fault : Fault} (unread : Descriptor.parse source text = .error fault) :
      FirstFailure source text className package fault
  | refused {descriptor : Descriptor} {fault : Fault} (read : Descriptor.parse source text = .ok descriptor)
      (refused : Refused descriptor className (packageOf descriptor package) fault) :
      FirstFailure source text className package fault

structure Complete (descriptor : Descriptor) (className packageName : Json) : Prop where
  named : IsClassName className
  placed : IsPackageName packageName
  visible : Visible descriptor.typeParameters
  wellFormed : ∀ spec ∈ descriptor.fields, ¬ IllFormed descriptor.style spec.parameter

theorem isPackageName_iff : IsPackageName packageName ↔ ∃ package, packageName = .string package ∧ IsPackage package := by
  simp only [IsPackageName, IsPackage, isDottedIdentifier_iff]

/-- A package is only looked at once the class has its name, and the type parameters come last. -/
theorem draft_error_iff : descriptor.draft className packageName = .error fault ↔
    ¬ IsClassName className ∧ fault = .configuration (.invalidClassName className.display) ∨
    IsClassName className ∧ ¬ IsPackageName packageName ∧ fault = .configuration (packageFault packageName) ∨
    IsClassName className ∧ IsPackageName packageName ∧ ¬ Visible descriptor.typeParameters ∧
      fault = .configuration .blankTypeParameter := by
  have blank : (¬ Visible descriptor.typeParameters) ↔ ∃ text ∈ descriptor.typeParameters, Text.isBlank text = true := by
    simp [Visible]
  simp only [Descriptor.draft, bind_error_iff, setClassName_error_iff, setPackageName_error_iff,
    setTypeParameters_error_iff, setClassName_ok_iff, setPackageName_ok_iff, isPackageName_iff, blank]
  constructor
  · intro refused
    obtain misnamed | ⟨_, ⟨name, rfl, good, rfl⟩, refused⟩ := refused
    · exact Or.inl misnamed
    obtain misplaced | ⟨_, ⟨package, rfl, placed, rfl⟩, refused⟩ := refused
    · exact Or.inr (Or.inl ⟨⟨name, rfl, good⟩, misplaced⟩)
    obtain blank | ⟨_, _, impossible⟩ := refused
    · exact Or.inr (Or.inr ⟨⟨name, rfl, good⟩, ⟨package, rfl, placed⟩, blank⟩)
    · cases impossible
  · intro refused
    obtain misnamed | ⟨⟨name, rfl, good⟩, misplaced⟩ | ⟨⟨name, rfl, good⟩, ⟨package, rfl, placed⟩, blank⟩ := refused
    · exact Or.inl misnamed
    · exact Or.inr ⟨_, ⟨name, rfl, good, rfl⟩, Or.inl misplaced⟩
    · exact Or.inr ⟨_, ⟨name, rfl, good, rfl⟩, Or.inr ⟨_, ⟨package, rfl, placed, rfl⟩, Or.inl blank⟩⟩

theorem classModel_error_iff :
    descriptor.classModel className packageName = .error fault ↔ Refused descriptor className packageName fault := by
  simp only [Descriptor.classModel, bind_error_iff, draft_ok_iff]
  constructor
  · intro refused
    obtain early | ⟨_, ⟨name, package, rfl, good, rfl, placed, visible, rfl⟩, late⟩ := refused
    · obtain ⟨misnamed, rfl⟩ | ⟨named, misplaced, rfl⟩ | ⟨named, placed, blank, rfl⟩ := draft_error_iff.mp early
      · exact .className misnamed
      · exact .packageName named misplaced
      · exact .typeParameters named placed blank
    · obtain unresolved | ⟨_, _, impossible⟩ := bind_error_iff.mp late
      · obtain ⟨before, spec, later, shape, earlier, refused⟩ := mapM_error_iff.mp unresolved
        obtain ⟨cause, blamed, rfl⟩ := resolve_error_iff.mp refused
        apply Refused.field ⟨name, rfl, good⟩ (isPackageName_iff.mpr ⟨package, rfl, placed⟩) visible shape _ blamed
        exact fun other member => resolve_succeeds_iff.mp (earlier other member)
      · cases impossible
  · intro refused
    cases refused with
    | className misnamed => exact Or.inl (draft_error_iff.mpr (Or.inl ⟨misnamed, rfl⟩))
    | packageName named misplaced => exact Or.inl (draft_error_iff.mpr (Or.inr (Or.inl ⟨named, misplaced, rfl⟩)))
    | typeParameters named placed blank =>
      exact Or.inl (draft_error_iff.mpr (Or.inr (Or.inr ⟨named, placed, blank, rfl⟩)))
    | @field before later spec cause named placed visible shape fine blamed =>
      obtain ⟨name, rfl, good⟩ := named
      obtain ⟨package, rfl, isPackage⟩ := isPackageName_iff.mp placed
      have refused := resolve_error_iff.mpr ⟨cause, blamed, rfl⟩
      have earlier : ∀ other ∈ before, ∃ member, Member.resolve descriptor.style other = .ok member :=
        fun other member => resolve_succeeds_iff.mpr (fine other member)
      refine Or.inr ⟨_, ⟨name, package, rfl, good, rfl, isPackage, visible, rfl⟩, bind_error_iff.mpr (Or.inl ?_)⟩
      exact mapM_error_iff.mpr ⟨before, spec, later, shape, earlier, refused⟩

theorem classModel_succeeds_iff :
    (∃ model, descriptor.classModel className packageName = .ok model) ↔ Complete descriptor className packageName := by
  simp only [classModel_ok_iff]
  constructor
  · intro settled
    obtain ⟨_, name, package, members, rfl, good, rfl, placed, visible, resolved, -⟩ := settled
    have each := mapM_succeeds_iff.mp ⟨members, resolved⟩
    exact ⟨⟨name, rfl, good⟩, isPackageName_iff.mpr ⟨package, rfl, placed⟩, visible,
      fun spec member => resolve_succeeds_iff.mp (each spec member)⟩
  · intro complete
    obtain ⟨name, rfl, good⟩ := complete.named
    obtain ⟨package, rfl, placed⟩ := isPackageName_iff.mp complete.placed
    have each : ∀ spec ∈ descriptor.fields, ∃ member, Member.resolve descriptor.style spec = .ok member :=
      fun spec member => resolve_succeeds_iff.mpr (complete.wellFormed spec member)
    obtain ⟨members, resolved⟩ := mapM_succeeds_iff.mpr each
    exact ⟨_, name, package, members, rfl, good, rfl, placed, complete.visible, resolved, rfl⟩

/-- The causes for which a generation may end without a class: the configuration, one of the
parameters, or a number too long to be read. -/
def Expected (fault : Fault) : Prop :=
  (∃ cause, fault = .configuration cause) ∨ (∃ name cause, fault = .malformed name cause) ∨
    ∃ digits, fault = .oversizedInteger digits

private theorem parse_expected (unread : Descriptor.parse source text = .error fault) : Expected fault := by
  unfold Descriptor.parse at unread
  split at unread
  next value _ =>
    have barred : ¬ IsDescriptor value := by
      rw [← (descriptor_decides source value).succeeds_iff, unread]
      simp
    obtain ⟨cause, refused⟩ | ⟨name, cause, refused⟩ := (descriptor_decides source value).refuses barred
    · exact Or.inl ⟨cause, Except.error.inj (unread.symm.trans refused)⟩
    · exact Or.inr (Or.inl ⟨name, cause, Except.error.inj (unread.symm.trans refused)⟩)
  next =>
    cases unread
    exact Or.inl ⟨_, rfl⟩
  next digits _ =>
    cases unread
    exact Or.inr (Or.inr ⟨digits, rfl⟩)

theorem FirstFailure.expected (failure : FirstFailure source text className package fault) : Expected fault := by
  cases failure with
  | unread unread => exact parse_expected unread
  | refused _ refused =>
    cases refused with
    | className => exact Or.inl ⟨_, rfl⟩
    | packageName => exact Or.inl ⟨_, rfl⟩
    | typeParameters => exact Or.inl ⟨_, rfl⟩
    | field => exact Or.inr (Or.inl ⟨_, _, rfl⟩)

theorem generate_error_iff :
    generate source text className package = .error fault ↔ FirstFailure source text className package fault := by
  simp only [generate, bind_error_iff, Descriptor.render, map_error_iff, classModel_error_iff]
  constructor
  · intro failed
    obtain unread | ⟨descriptor, read, refused⟩ := failed
    · exact .unread unread
    · exact .refused read refused
  · intro failure
    cases failure with
    | unread unread => exact Or.inl unread
    | refused read refused => exact Or.inr ⟨_, read, refused⟩

theorem generate_succeeds_iff : (∃ rendered, generate source text className package = .ok rendered) ↔
    ∃ descriptor, Descriptor.parse source text = .ok descriptor ∧
      Complete descriptor className (packageOf descriptor package) := by
  simp only [generate, bind_ok_iff, Descriptor.render, map_ok_iff, ← classModel_succeeds_iff]
  constructor
  · intro generated
    obtain ⟨_, descriptor, read, model, settled, -⟩ := generated
    exact ⟨descriptor, read, model, settled⟩
  · intro complete
    obtain ⟨descriptor, read, model, settled⟩ := complete
    exact ⟨_, descriptor, read, model, settled, rfl⟩

/-- Whatever the text and the names are, there is a class or an expected fault. There is a
class exactly when every stage accepts its input; the fault is that of the first stage that
does not, and nothing that a later stage looks at can change it. -/
theorem generation_stops_at_first_failure (source text : String) (className : Json) (package : Option Json) :
    ((∃ rendered, generate source text className package = .ok rendered) ∨
      ∃ fault, generate source text className package = .error fault ∧ Expected fault) ∧
    ((∃ rendered, generate source text className package = .ok rendered) ↔
      ∃ descriptor, Descriptor.parse source text = .ok descriptor ∧
        Complete descriptor className (packageOf descriptor package)) ∧
    ∀ fault, generate source text className package = .error fault ↔
      FirstFailure source text className package fault := by
  refine ⟨?_, generate_succeeds_iff, fun _ => generate_error_iff⟩
  cases generated : generate source text className package with
  | ok rendered => exact Or.inl ⟨rendered, rfl⟩
  | error fault => exact Or.inr ⟨fault, rfl, (generate_error_iff.mp generated).expected⟩

end ParamBundle.Proofs.GenerationStages
