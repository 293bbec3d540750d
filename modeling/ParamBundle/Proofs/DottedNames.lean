import ParamBundle.Identifier

/-! Package names are identifiers with single dots between them. Names are read one
character at a time; here the answer is put in terms of the pieces between the dots. -/

namespace ParamBundle.Proofs.DottedNames

theorem isIdentifierPart_of_start {c : Char} (start : isIdentifierStart c = true) : isIdentifierPart c = true := by
  simp only [isIdentifierStart, isIdentifierPart, Char.isAlphanum, Bool.or_eq_true] at start ⊢
  obtain (letter | underscore) | dollar := start
  · exact Or.inl (Or.inl (Or.inl letter))
  · exact Or.inl (Or.inr underscore)
  · exact Or.inr dollar

theorem isIdentifier_chars {name : String} (good : isIdentifier name = true) :
    ∀ c ∈ name.toList, isIdentifierPart c = true := by
  unfold isIdentifier at good
  split at good
  · cases good
  next first rest shape =>
    rw [shape]
    obtain ⟨start, parts⟩ := Bool.and_eq_true_iff.mp good
    intro c member
    rcases List.mem_cons.mp member with rfl | member
    · exact isIdentifierPart_of_start start
    · exact List.all_eq_true.mp parts c member

/-- A character that no identifier holds is in none. -/
theorem not_mem_isIdentifier {name : String} {c : Char} (good : isIdentifier name = true)
    (foreign : isIdentifierPart c = false) : c ∉ name.toList := by
  intro member
  rw [isIdentifier_chars good c member] at foreign
  cases foreign

def isName (piece : List Char) : Bool := isIdentifier (String.ofList piece)

private theorem isName_cons (first : Char) (rest : List Char) :
    isName (first :: rest) = (isIdentifierStart first && rest.all isIdentifierPart) := by
  simp [isName, isIdentifier]

theorem splitDots_eq_splitOn (text : List Char) : splitDots text = text.splitOn '.' := by
  induction text with
  | nil => simp [splitDots]
  | cons c rest ih =>
    rw [splitDots, List.splitOn_cons_eq_if_modifyHead, ih]
    by_cases dot : c = '.'
    · simp [dot]
    · obtain ⟨piece, pieces, shape⟩ := List.exists_cons_of_ne_nil (List.splitOn_ne_nil '.' rest)
      simp [dot, shape]

/-- The flag only matters for the piece that is being read. -/
theorem readsAsDotted_of_splitDots {text piece : List Char} {pieces : List (List Char)}
    (split : splitDots text = piece :: pieces) :
    readsAsDotted false text = (piece.all isIdentifierPart && pieces.all isName) ∧
    readsAsDotted true text = (isName piece && pieces.all isName) := by
  induction text generalizing piece pieces with
  | nil =>
    cases split
    exact ⟨rfl, rfl⟩
  | cons c rest ih =>
    obtain ⟨next, others, shape⟩ := List.exists_cons_of_ne_nil (splitDots_eq_splitOn rest ▸ List.splitOn_ne_nil '.' rest)
    obtain ⟨inside, beginning⟩ := ih shape
    rw [splitDots, shape] at split
    by_cases dot : c = '.'
    · subst c
      cases split
      refine ⟨?_, rfl⟩
      simp [readsAsDotted, beginning]
    · simp only [dot, if_false] at split
      cases split
      constructor
      · simp [readsAsDotted, dot, inside, Bool.and_assoc]
      · simp [readsAsDotted, isName_cons, inside, Bool.and_assoc]

private theorem isDottedIdentifier_eq (name : String) : isDottedIdentifier name = (name.toList.splitOn '.').all isName := by
  obtain ⟨piece, pieces, shape⟩ := List.exists_cons_of_ne_nil (List.splitOn_ne_nil '.' name.toList)
  rw [isDottedIdentifier, (readsAsDotted_of_splitDots ((splitDots_eq_splitOn _).trans shape)).2, shape, List.all_cons]

def IsDotted (name : String) : Prop :=
  ∃ pieces : List String, pieces ≠ [] ∧ (∀ piece ∈ pieces, isIdentifier piece = true) ∧ name = ".".intercalate pieces

/-- Identifiers hold no dot, so a name falls apart where it was put together. -/
theorem splitOn_dotted {pieces : List String} (some : pieces ≠ []) (good : ∀ piece ∈ pieces, isIdentifier piece = true) :
    (".".intercalate pieces).toList.splitOn '.' = pieces.map String.toList := by
  have free : ∀ piece ∈ pieces.map String.toList, '.' ∉ piece := by
    simp only [List.forall_mem_map]
    exact fun piece member => not_mem_isIdentifier (good piece member) rfl
  rw [String.toList_intercalate, show ".".toList = ['.'] from rfl, List.splitOn_intercalate '.' free (by simpa using some)]

theorem isDottedIdentifier_iff {name : String} : isDottedIdentifier name = true ↔ IsDotted name := by
  rw [isDottedIdentifier_eq, List.all_eq_true]
  constructor
  · intro good
    refine ⟨(name.toList.splitOn '.').map String.ofList, by simp [List.splitOn_ne_nil], List.forall_mem_map.mpr good, ?_⟩
    simp [← String.toList_inj, Function.comp_def]
  · rintro ⟨pieces, some, good, rfl⟩
    rw [splitOn_dotted some good]
    simpa [isName] using good

theorem IsDotted.visible {name : String} (dotted : IsDotted name) : name ≠ "" := by
  intro empty
  have read := isDottedIdentifier_iff.mpr dotted
  rw [empty] at read
  cases read

theorem packageSegments_dotted {pieces : List String} (some : pieces ≠ [])
    (good : ∀ piece ∈ pieces, isIdentifier piece = true) : packageSegments (".".intercalate pieces) = pieces := by
  have visible : ".".intercalate pieces ≠ "" := IsDotted.visible ⟨pieces, some, good, rfl⟩
  rw [packageSegments, if_neg (by simpa using visible), splitDots_eq_splitOn, splitOn_dotted some good]
  simp

end ParamBundle.Proofs.DottedNames
