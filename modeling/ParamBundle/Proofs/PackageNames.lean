import ParamBundle.Proofs.ClassSettings
import ParamBundle.Proofs.DottedNames

/-! Packages and classes are named by the same identifiers. A package is looked at as a whole
and a class name by itself, each by a check of its own; the two checks agree on every text,
and what lies between the dots of a package are names that a class could bear. -/

namespace ParamBundle.Proofs.PackageNames
open ClassSettings DottedNames

variable {draft : Draft} {package name : String} {names : List String}

/-- What lies between the dots of a text. Two dots in a row have the empty text between them. -/
def pieces (text : String) : List String := (splitDots text.toList).map String.ofList

def TakesClassName (draft : Draft) (name : String) : Prop := ∃ next, draft.setClassName (.string name) = .ok next

def TakesPackage (draft : Draft) (package : String) : Prop := ∃ next, draft.setPackageName (.string package) = .ok next

private theorem pieces_eq_splitOn (text : String) : pieces text = (text.toList.splitOn '.').map String.ofList := by
  rw [pieces, splitDots_eq_splitOn]

private theorem pieces_ne_nil (text : String) : pieces text ≠ [] := by simp [pieces_eq_splitOn, List.splitOn_ne_nil]

theorem intercalate_pieces (text : String) : ".".intercalate (pieces text) = text := by
  simp [pieces_eq_splitOn, ← String.toList_inj, Function.comp_def]

/-- Identifiers hold no dot, so they are the pieces of what is put together from them. -/
theorem pieces_dotted (present : names ≠ []) (good : ∀ name ∈ names, isIdentifier name = true) :
    pieces (".".intercalate names) = names := by
  rw [pieces_eq_splitOn, splitOn_dotted present good]
  simp [Function.comp_def]

private theorem packageSegments_eq_pieces (visible : package ≠ "") : packageSegments package = pieces package :=
  if_neg (by simpa using visible)

theorem takesClassName_iff : TakesClassName draft name ↔ isIdentifier name = true := by
  simp [TakesClassName, setClassName_ok_iff]

theorem takesPackage_iff : TakesPackage draft package ↔ package = "" ∨ IsDotted package := by
  simp [TakesPackage, setPackageName_ok_iff, IsPackage, isDottedIdentifier_iff]

theorem isDotted_iff_pieces : IsDotted package ↔ ∀ piece ∈ pieces package, isIdentifier piece = true := by
  constructor
  · intro ⟨names, present, good, spelled⟩
    rw [spelled, pieces_dotted present good]
    exact good
  · intro good
    exact ⟨pieces package, pieces_ne_nil package, good, (intercalate_pieces package).symm⟩

/-- A text is taken as the package exactly when it is empty or all its pieces are taken as class
names. The pieces of a package are then its segments, none of them is empty, and joined by
dots they are the package again; and any class names that are joined by dots are a package. -/
theorem packages_are_joined_class_names (draft other : Draft) :
    (∀ package, TakesPackage draft package ↔
      package = "" ∨ ∀ piece ∈ pieces package, TakesClassName other piece) ∧
    (∀ package, TakesPackage draft package → package ≠ "" →
      "" ∉ pieces package ∧ ".".intercalate (pieces package) = package ∧ packageSegments package = pieces package) ∧
    ∀ names, names ≠ [] → (∀ name ∈ names, TakesClassName other name) →
      TakesPackage draft (".".intercalate names) ∧ pieces (".".intercalate names) = names := by
  simp only [takesClassName_iff, takesPackage_iff]
  refine ⟨?_, ?_, ?_⟩
  · intro package
    rw [isDotted_iff_pieces]
  · intro package accepted visible
    have good := isDotted_iff_pieces.mp (accepted.resolve_left visible)
    refine ⟨?_, intercalate_pieces package, packageSegments_eq_pieces visible⟩
    intro empty
    cases good "" empty
  · intro names present good
    exact ⟨Or.inr ⟨names, present, good, rfl⟩, pieces_dotted present good⟩

/-- A dollar sign alone is a class name and so is one piece of a package. -/
theorem dollar_is_a_package_piece :
    TakesPackage {} "geo.$._2d" ∧ "geo.$._2d" ≠ "" ∧ "" ∉ pieces "geo.$._2d" ∧
      ".".intercalate (pieces "geo.$._2d") = "geo.$._2d" ∧ packageSegments "geo.$._2d" = pieces "geo.$._2d" ∧
      pieces (".".intercalate ["geo", "$", "_2d"]) = ["geo", "$", "_2d"] := by
  obtain ⟨-, split, joined⟩ := packages_are_joined_class_names {} {}
  have named : ∀ name ∈ ["geo", "$", "_2d"], TakesClassName {} name := by
    simp only [takesClassName_iff]
    decide
  obtain ⟨accepted, read⟩ := joined ["geo", "$", "_2d"] (List.cons_ne_nil _ _) named
  have visible : "geo.$._2d" ≠ "" := by decide
  exact ⟨accepted, visible, (split _ accepted visible).1, (split _ accepted visible).2.1, (split _ accepted visible).2.2, read⟩

end ParamBundle.Proofs.PackageNames
