import Mathlib.Data.List.Forall2

/-! Lists that are treated item by item until one item is refused. What comes after the
refused item never shows in the answer. -/

namespace ParamBundle.Proofs.Traversal

variable {α β ε : Type}

theorem bind_ok_iff {first : Except ε α} {next : α → Except ε β} {answer : β} :
    (first >>= next) = .ok answer ↔ ∃ value, first = .ok value ∧ next value = .ok answer := by
  cases first <;> simp [bind, Except.bind]

theorem bind_error_iff {first : Except ε α} {next : α → Except ε β} {fault : ε} :
    (first >>= next) = .error fault ↔
      first = .error fault ∨ ∃ value, first = .ok value ∧ next value = .error fault := by
  cases first <;> simp [bind, Except.bind]

theorem map_ok_iff {first : Except ε α} {f : α → β} {answer : β} :
    first.map f = .ok answer ↔ ∃ value, first = .ok value ∧ f value = answer := by
  cases first <;> simp [Except.map]

theorem map_error_iff {first : Except ε α} {f : α → β} {fault : ε} :
    first.map f = .error fault ↔ first = .error fault := by
  cases first <;> simp [Except.map]

theorem mapM_ok_iff {f : α → Except ε β} {items : List α} {answers : List β} :
    items.mapM f = .ok answers ↔ List.Forall₂ (fun item answer => f item = .ok answer) items answers := by
  induction items generalizing answers with
  | nil => simp [pure, Except.pure, eq_comm]
  | cons item items ih =>
    simp only [List.mapM_cons, bind_ok_iff, ih, List.forall₂_cons_left_iff]
    constructor
    · rintro ⟨answer, accepted, rest, others, same⟩
      cases same
      exact ⟨answer, rest, accepted, others, rfl⟩
    · rintro ⟨answer, rest, accepted, others, rfl⟩
      exact ⟨answer, accepted, rest, others, rfl⟩

theorem map_eq_iff_forall₂ {γ : Type} {f : α → γ} {g : β → γ} {items : List α} {others : List β} :
    items.map f = others.map g ↔ List.Forall₂ (fun item other => f item = g other) items others := by
  rw [← List.forall₂_eq_eq_eq, List.forall₂_map_left_iff, List.forall₂_map_right_iff]

theorem mapM_eq_of_forall₂ {γ : Type} {m : Type → Type} [Monad m] [LawfulMonad m] {f : α → m γ} {g : β → m γ}
    {items : List α} {others : List β} (same : List.Forall₂ (fun item other => f item = g other) items others) :
    items.mapM f = others.mapM g := by
  induction same with
  | nil => rfl
  | cons first _ ih => rw [List.mapM_cons, List.mapM_cons, first, ih]

theorem partner_of_mem {related : α → β → Prop} {items : List α} {answers : List β} {answer : β}
    (pairs : List.Forall₂ related items answers) (given : answer ∈ answers) : ∃ item ∈ items, related item answer := by
  induction pairs with
  | nil => cases given
  | @cons item _ items _ first rest ih =>
    rcases List.mem_cons.mp given with rfl | given
    · exact ⟨item, List.mem_cons_self, first⟩
    · obtain ⟨other, listed, related⟩ := ih given
      exact ⟨other, List.mem_cons_of_mem item listed, related⟩

/-- Every answer was given to some item. -/
theorem answered_of_mem {f : α → Except ε β} {items : List α} {answers : List β} {answer : β}
    (done : items.mapM f = .ok answers) (given : answer ∈ answers) : ∃ item ∈ items, f item = .ok answer := by
  obtain ⟨item, listed, accepted⟩ := partner_of_mem (mapM_ok_iff.mp done) given
  exact ⟨item, listed, accepted⟩

theorem mapM_error_iff {f : α → Except ε β} {items : List α} {fault : ε} :
    items.mapM f = .error fault ↔ ∃ before item later, items = before ++ item :: later ∧
      (∀ earlier ∈ before, ∃ answer, f earlier = .ok answer) ∧ f item = .error fault := by
  induction items with
  | nil => simp [pure, Except.pure]
  | cons first items ih =>
    simp only [List.mapM_cons, bind_error_iff, ih]
    constructor
    · rintro (refused | ⟨answer, accepted, ⟨before, item, later, rfl, earlier, refused⟩ | ⟨_, _, impossible⟩⟩)
      · exact ⟨[], first, items, rfl, by simp, refused⟩
      · refine ⟨first :: before, item, later, rfl, ?_, refused⟩
        rintro other member
        rcases List.mem_cons.mp member with rfl | member
        · exact ⟨answer, accepted⟩
        · exact earlier other member
      · cases impossible
    · rintro ⟨before, item, later, shape, earlier, refused⟩
      cases before with
      | nil =>
        cases shape
        exact Or.inl refused
      | cons head before =>
        cases shape
        obtain ⟨answer, accepted⟩ := earlier first List.mem_cons_self
        exact Or.inr ⟨answer, accepted, Or.inl ⟨before, item, later, rfl,
          fun other member => earlier other (List.mem_cons_of_mem _ member), refused⟩⟩

theorem mapM_succeeds_iff {f : α → Except ε β} {items : List α} :
    (∃ answers, items.mapM f = .ok answers) ↔ ∀ item ∈ items, ∃ answer, f item = .ok answer := by
  induction items with
  | nil => simp [pure, Except.pure]
  | cons item items ih =>
    simp only [List.mapM_cons, bind_ok_iff, List.forall_mem_cons, ← ih]
    constructor
    · rintro ⟨_, answer, accepted, answers, others, _⟩
      exact ⟨⟨answer, accepted⟩, answers, others⟩
    · rintro ⟨⟨answer, accepted⟩, answers, others⟩
      exact ⟨answer :: answers, answer, accepted, answers, others, rfl⟩

theorem mapM_isSome_iff {f : α → Option β} {items : List α} :
    (∃ answers, items.mapM f = some answers) ↔ ∀ item ∈ items, ∃ answer, f item = some answer := by
  induction items with
  | nil => simp
  | cons item items ih =>
    simp only [List.mapM_cons, Option.bind_eq_bind, Option.bind_eq_some_iff, List.forall_mem_cons, ← ih]
    constructor
    · rintro ⟨_, answer, accepted, answers, others, _⟩
      exact ⟨⟨answer, accepted⟩, answers, others⟩
    · rintro ⟨⟨answer, accepted⟩, answers, others⟩
      exact ⟨answer :: answers, answer, accepted, answers, others, rfl⟩

end ParamBundle.Proofs.Traversal
