import ParamBundle.Fault
import ParamBundle.Proofs.Traversal

/-! Checks that are made one after the other. What is demanded stands in one list, and what
is reported is the fault of the first demand that is not met. A reader follows such a list
when this is all there is to its answer. -/

namespace ParamBundle.Proofs.OrderedChecks
open Traversal

structure Check where
  demand : Prop
  fault : Fault

/-- The fault of the first check that fails. The checks after it are not looked at. -/
inductive FirstFault : List Check → Fault → Prop where
  | here {check : Check} {later : List Check} (failed : ¬ check.demand) : FirstFault (check :: later) check.fault
  | later {check : Check} {later : List Check} {fault : Fault} (met : check.demand) (first : FirstFault later fault) :
      FirstFault (check :: later) fault

def Met (checks : List Check) : Prop := ∀ check ∈ checks, check.demand

/-- A reader that looks at its checks in order. -/
structure Follows {α : Type} (answer : Except Fault α) (checks : List Check) : Prop where
  accepts : Met checks → ∃ value, answer = .ok value
  blames : ∀ fault, FirstFault checks fault → answer = .error fault

section Lists
variable {check : Check} {checks before later : List Check} {fault : Fault}

private theorem met_cons : Met (check :: checks) ↔ check.demand ∧ Met checks := List.forall_mem_cons

theorem met_singleton : Met [check] ↔ check.demand := List.forall_mem_singleton

theorem met_append : Met (before ++ later) ↔ Met before ∧ Met later := List.forall_mem_append

theorem met_or_fault (checks : List Check) : Met checks ∨ ∃ fault, FirstFault checks fault := by
  induction checks with
  | nil => exact Or.inl (by simp [Met])
  | cons check later ih =>
    by_cases met : check.demand
    · obtain all | ⟨fault, first⟩ := ih
      · exact Or.inl (met_cons.mpr ⟨met, all⟩)
      · exact Or.inr ⟨fault, .later met first⟩
    · exact Or.inr ⟨check.fault, .here met⟩

theorem FirstFault.not_met (first : FirstFault checks fault) : ¬ Met checks := by
  intro all
  induction first with
  | here failed => exact failed (met_cons.mp all).1
  | later _ _ ih => exact ih (met_cons.mp all).2

theorem FirstFault.reported (first : FirstFault checks fault) : ∃ check ∈ checks, check.fault = fault := by
  induction first with
  | here _ => exact ⟨_, List.mem_cons_self, rfl⟩
  | later _ _ ih =>
    obtain ⟨check, listed, same⟩ := ih
    exact ⟨check, List.mem_cons_of_mem _ listed, same⟩

theorem FirstFault.append (first : FirstFault before fault) (later : List Check) : FirstFault (before ++ later) fault := by
  induction first with
  | here failed => exact .here failed
  | later met _ ih => exact .later met ih

theorem FirstFault.after (first : FirstFault later fault) (met : Met before) : FirstFault (before ++ later) fault := by
  induction before with
  | nil => exact first
  | cons check before ih =>
    obtain ⟨holds, rest⟩ := met_cons.mp met
    exact .later holds (ih rest)

theorem firstFault_append_iff :
    FirstFault (before ++ later) fault ↔ FirstFault before fault ∨ Met before ∧ FirstFault later fault := by
  constructor
  · intro first
    induction before with
    | nil => exact Or.inr ⟨by simp [Met], first⟩
    | cons check before ih =>
      cases first with
      | here failed => exact Or.inl (.here failed)
      | later met first =>
        obtain early | ⟨all, late⟩ := ih first
        · exact Or.inl (.later met early)
        · exact Or.inr ⟨met_cons.mpr ⟨met, all⟩, late⟩
  · intro first
    obtain early | ⟨all, late⟩ := first
    · exact early.append later
    · exact late.after all

/-- Over a list of items, the first item that fails is found, and within it its first fault. -/
theorem firstFault_flatMap_iff {α : Type} {items : List α} {checks : α → List Check} :
    FirstFault (items.flatMap checks) fault ↔ ∃ before item later, items = before ++ item :: later ∧
      (∀ earlier ∈ before, Met (checks earlier)) ∧ FirstFault (checks item) fault := by
  constructor
  · intro first
    induction items with
    | nil => cases first
    | cons head items ih =>
      rw [List.flatMap_cons, firstFault_append_iff] at first
      obtain here | ⟨met, first⟩ := first
      · exact ⟨[], head, items, rfl, by simp, here⟩
      · obtain ⟨before, item, later, rfl, earlier, failed⟩ := ih first
        exact ⟨head :: before, item, later, rfl, List.forall_mem_cons.mpr ⟨met, earlier⟩, failed⟩
  · intro ⟨before, item, later, shape, earlier, failed⟩
    rw [shape, List.flatMap_append, List.flatMap_cons]
    apply (failed.append _).after
    intro check member
    obtain ⟨one, listed, inside⟩ := List.mem_flatMap.mp member
    exact earlier one listed check inside

end Lists

namespace Follows
variable {α β : Type} {answer first : Except Fault α} {next : α → Except Fault β} {demand : Prop} {fault : Fault}
  {checks later : List Check}

theorem error_iff (follows : Follows answer checks) : answer = .error fault ↔ FirstFault checks fault := by
  refine ⟨fun refused => ?_, follows.blames fault⟩
  obtain all | ⟨blamed, first⟩ := met_or_fault checks
  · obtain ⟨value, accepted⟩ := follows.accepts all
    rw [accepted] at refused
    cases refused
  · have same := refused.symm.trans (follows.blames blamed first)
    exact Except.error.inj same ▸ first

theorem met_of_ok (follows : Follows answer checks) {value : α} (accepted : answer = .ok value) : Met checks := by
  obtain all | ⟨fault, first⟩ := met_or_fault checks
  · exact all
  · rw [follows.blames fault first] at accepted
    cases accepted

theorem done (value : α) : Follows (.ok value) [] := by
  refine ⟨fun _ => ⟨value, rfl⟩, fun fault first => ?_⟩
  cases first

theorem failed (failed : ¬ demand) : Follows (.error fault : Except Fault α) (⟨demand, fault⟩ :: checks) := by
  refine ⟨fun all => absurd (met_cons.mp all).1 failed, fun _ first => ?_⟩
  cases first with
  | here _ => rfl
  | later met _ => exact absurd met failed

theorem met (met : demand) (follows : Follows answer checks) : Follows answer (⟨demand, fault⟩ :: checks) := by
  refine ⟨fun all => follows.accepts (met_cons.mp all).2, fun _ first => ?_⟩
  cases first with
  | here failed => exact absurd met failed
  | later _ first => exact follows.blames _ first

theorem bind (follows : Follows first checks) (rest : ∀ value, first = .ok value → Follows (next value) later) :
    Follows (first >>= next) (checks ++ later) := by
  refine ⟨fun all => ?_, fun fault blamed => ?_⟩
  · obtain ⟨early, late⟩ := met_append.mp all
    obtain ⟨value, accepted⟩ := follows.accepts early
    obtain ⟨answer, done⟩ := (rest value accepted).accepts late
    exact ⟨answer, bind_ok_iff.mpr ⟨value, accepted, done⟩⟩
  · obtain early | ⟨met, late⟩ := firstFault_append_iff.mp blamed
    · exact bind_error_iff.mpr (Or.inl (follows.blames fault early))
    · obtain ⟨value, accepted⟩ := follows.accepts met
      exact bind_error_iff.mpr (Or.inr ⟨value, accepted, (rest value accepted).blames fault late⟩)

theorem mapM {f : α → Except Fault β} {checks : α → List Check} (each : ∀ item, Follows (f item) (checks item))
    (items : List α) : Follows (items.mapM f) (items.flatMap checks) := by
  induction items with
  | nil => exact done []
  | cons item items ih =>
    rw [List.mapM_cons, List.flatMap_cons]
    apply (each item).bind
    intro answer _
    rw [← List.append_nil (items.flatMap checks)]
    apply ih.bind
    exact fun answers _ => done (answer :: answers)

theorem foldlM {f : β → α → Except Fault β} {checks : α → List Check}
    (each : ∀ state item, Follows (f state item) (checks item)) (items : List α) (start : β) :
    Follows (items.foldlM f start) (items.flatMap checks) := by
  induction items generalizing start with
  | nil => exact done start
  | cons item items ih =>
    rw [List.foldlM_cons, List.flatMap_cons]
    exact (each start item).bind fun state _ => ih state

end Follows

end ParamBundle.Proofs.OrderedChecks
