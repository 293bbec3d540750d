/-! Sets of names, kept in strictly increasing order of code points. One set has one
representation, however its names were given and however often. -/

namespace ParamBundle

structure NameSet where
  toList : List String
  increasing : toList.Pairwise (· < ·)
deriving DecidableEq

namespace NameSet

def insertInto (name : String) : List String → List String
  | [] => [name]
  | other :: rest =>
    if name < other then name :: other :: rest
    else if other < name then other :: insertInto name rest
    else other :: rest

theorem mem_insertInto {name other : String} {names : List String} :
    other ∈ insertInto name names ↔ other = name ∨ other ∈ names := by
  induction names with
  | nil => simp [insertInto]
  | cons first rest ih =>
    unfold insertInto
    split
    · simp
    · split
      · simp only [List.mem_cons, ih]
        grind
      · have same : name = first := String.le_antisymm (String.not_lt.mp ‹_›) (String.not_lt.mp ‹_›)
        simp [same]

theorem pairwise_insertInto (name : String) {names : List String}
    (increasing : names.Pairwise (· < ·)) : (insertInto name names).Pairwise (· < ·) := by
  induction names with
  | nil => simp [insertInto]
  | cons first rest ih =>
    rw [List.pairwise_cons] at increasing
    unfold insertInto
    split
    · rename_i before
      refine List.pairwise_cons.mpr ⟨?_, List.pairwise_cons.mpr increasing⟩
      intro other member
      rcases List.mem_cons.mp member with rfl | member
      · exact before
      · exact String.lt_trans before (increasing.1 other member)
    · split
      · rename_i after
        refine List.pairwise_cons.mpr ⟨?_, ih increasing.2⟩
        intro other member
        rcases mem_insertInto.mp member with rfl | member
        · exact after
        · exact increasing.1 other member
      · exact List.pairwise_cons.mpr increasing

def empty : NameSet := ⟨[], .nil⟩

def insert (names : NameSet) (name : String) : NameSet :=
  ⟨insertInto name names.toList, pairwise_insertInto name names.increasing⟩

def ofList (names : List String) : NameSet := names.foldl insert empty

instance : Membership String NameSet := ⟨fun names name => name ∈ names.toList⟩

instance (names : NameSet) (name : String) : Decidable (name ∈ names) :=
  inferInstanceAs (Decidable (name ∈ names.toList))

theorem mem_insert {names : NameSet} {name other : String} :
    other ∈ names.insert name ↔ other = name ∨ other ∈ names := mem_insertInto

theorem mem_ofList {names : List String} {name : String} : name ∈ ofList names ↔ name ∈ names := by
  suffices ∀ start : NameSet, name ∈ names.foldl insert start ↔ name ∈ start ∨ name ∈ names by
    rw [ofList, this]
    exact or_iff_right List.not_mem_nil
  induction names with
  | nil => simp
  | cons first rest ih =>
    intro start
    rw [List.foldl_cons, ih, mem_insert, List.mem_cons]
    grind

end NameSet
end ParamBundle
