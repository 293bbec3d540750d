import ParamBundle.Json.Nesting
import ParamBundle.Proofs.ReaderProgress
import ParamBundle.Proofs.WrittenJson

/-! What has room. A text that opens no more lists and objects than fit inside each other is
read to its end or to its first fault. A row of brackets that is longer by one is not, and a
written value has room exactly when it is no deeper than there is room. -/

namespace ParamBundle.Proofs.NestedText
open Json ReaderProgress WrittenJson

variable {fuel room : Nat} {text rest : List Char}

def opens (c : Char) : Bool := c == '[' || c == '\x7b'

def brackets (text : List Char) : Nat := text.countP opens

private theorem brackets_suffix (later : rest <:+ text) (few : brackets text ≤ room) : brackets rest ≤ room :=
  (later.sublist.countP_le (p := opens)).trans few

/-- A bracket takes one from the room and from what is left to open. -/
private theorem brackets_opened {c : Char} (bracket : opens c = true) (few : brackets (c :: rest) ≤ room) :
    ∃ less, room = less + 1 ∧ brackets (skipSpace rest) ≤ less := by
  rw [brackets, List.countP_cons_of_pos bracket] at few
  obtain ⟨less, rfl⟩ : ∃ less, room = less + 1 := Nat.exists_eq_succ_of_ne_zero (by omega)
  exact ⟨less, rfl, brackets_suffix (skipSpace_suffix rest) (Nat.le_of_succ_le_succ few)⟩

/-- With as much fuel no reader lacks the room for a text with few brackets. -/
structure AllFit (fuel : Nat) : Prop where
  value : ∀ room text, brackets text ≤ room → valueOverreach? fuel room text = none
  items : ∀ room text, brackets text ≤ room → itemsOverreach? fuel room text = none
  members : ∀ room text, brackets text ≤ room → membersOverreach? fuel room text = none

private theorem value_fits (inner : AllFit fuel) (few : brackets text ≤ room) :
    valueOverreach? (fuel + 1) room text = none := by
  unfold valueOverreach?
  split
  next => obtain ⟨_, impossible, -⟩ := brackets_opened rfl few; cases impossible
  next rest room =>
    obtain ⟨_, same, few⟩ := brackets_opened rfl few
    cases same
    split
    · rfl
    · exact inner.items _ _ few
  next => obtain ⟨_, impossible, -⟩ := brackets_opened rfl few; cases impossible
  next rest room =>
    obtain ⟨_, same, few⟩ := brackets_opened rfl few
    cases same
    split
    · rfl
    · exact inner.members _ _ few
  · rfl

private theorem items_fit (inner : AllFit fuel) (few : brackets text ≤ room) :
    itemsOverreach? (fuel + 1) room text = none := by
  rw [itemsOverreach?, inner.value room text few]
  cases read : value fuel text with
  | error => rfl
  | ok found =>
    obtain ⟨item, after⟩ := found
    have left : skipSpace after <:+ text :=
      (skipSpace_suffix after).trans (((all_forward fuel).value text).leaves _ _ read)
    dsimp only
    split
    next rest shape =>
      rw [shape] at left
      exact inner.items _ _ (brackets_suffix ((skipSpace_suffix rest).trans ((List.suffix_cons ..).trans left)) few)
    · rfl

private theorem members_fit (inner : AllFit fuel) (few : brackets text ≤ room) :
    membersOverreach? (fuel + 1) room text = none := by
  unfold membersOverreach?
  split
  next quoted =>
    split
    · rfl
    next key after read =>
      have left : skipSpace after <:+ '"' :: quoted := (skipSpace_suffix after).trans
        (((stringBody_forward _ quoted).leaves _ _ read).trans (List.suffix_cons ..))
      split
      next rest shape =>
        rw [shape] at left
        have entered : skipSpace rest <:+ '"' :: quoted :=
          (skipSpace_suffix rest).trans ((List.suffix_cons ..).trans left)
        rw [inner.value room _ (brackets_suffix entered few)]
        cases read : value fuel (skipSpace rest) with
        | error => rfl
        | ok found =>
          obtain ⟨item, after⟩ := found
          have left : skipSpace after <:+ '"' :: quoted := (skipSpace_suffix after).trans
            ((((all_forward fuel).value _).leaves _ _ read).trans entered)
          dsimp only
          split
          next rest shape =>
            rw [shape] at left
            exact inner.members _ _
              (brackets_suffix ((skipSpace_suffix rest).trans ((List.suffix_cons ..).trans left)) few)
          · rfl
      · rfl
  · rfl

theorem all_fit (fuel : Nat) : AllFit fuel := by
  induction fuel with
  | zero => exact ⟨fun _ _ _ => by rw [valueOverreach?], fun _ _ _ => by rw [itemsOverreach?],
      fun _ _ _ => by rw [membersOverreach?]⟩
  | succ fuel inner =>
    exact ⟨fun _ _ => value_fits inner, fun _ _ => items_fit inner, fun _ _ => members_fit inner⟩

theorem overreach?_of_few (few : brackets text ≤ room) : overreach? room text = none := by
  unfold overreach?
  split
  · rfl
  · exact (all_fit _).value _ _ (brackets_suffix (skipSpace_suffix text) few)

private theorem valueOverreach?_row (enough : 2 * room < fuel) :
    valueOverreach? fuel room (List.replicate (room + 1) '[' ++ rest) = some .list := by
  induction room generalizing fuel with
  | zero =>
    obtain ⟨fuel, rfl⟩ : ∃ less, fuel = less + 1 := Nat.exists_eq_succ_of_ne_zero (by omega)
    rfl
  | succ room ih =>
    -- one step enters the bracket, the next begins with the first item
    obtain ⟨fuel, rfl⟩ : ∃ less, fuel = less + 2 := Nat.exists_eq_add_of_le' (by omega)
    have begun : skipSpace (List.replicate (room + 1) '[' ++ rest) = List.replicate (room + 1) '[' ++ rest := rfl
    have inner : valueOverreach? fuel room (List.replicate (room + 1) '[' ++ rest) = some .list := ih (by omega)
    rw [List.replicate_succ, List.cons_append, valueOverreach?, begun]
    rw [List.replicate_succ, List.cons_append] at inner ⊢
    change itemsOverreach? (fuel + 1) room _ = _
    rw [itemsOverreach?, inner]

theorem overreach?_row (room : Nat) (rest : List Char) :
    overreach? room (List.replicate (room + 1) '[' ++ rest) = some .list := by
  have begun : skipSpace (List.replicate (room + 1) '[' ++ rest) = List.replicate (room + 1) '[' ++ rest := rfl
  have visible : room < (List.replicate (room + 1) '[' ++ rest).countP (!isSpace ·) := by
    rw [List.countP_append, List.countP_replicate]
    exact Nat.le_add_right _ _
  rw [overreach?, begun, valueOverreach?_row (by omega)]
  simp [List.replicate_succ]

/-! ### Written values -/

variable {json : Json} {after : List Char}

mutual

/-- How many lists and objects lie inside each other. -/
def depth : Json → Nat
  | .array items => itemsDepth items + 1
  | .object members => membersDepth members + 1
  | _ => 0

def itemsDepth : List Json → Nat
  | [] => 0
  | item :: items => max (depth item) (itemsDepth items)

def membersDepth : List (String × Json) → Nat
  | [] => 0
  | (_, value) :: members => max (depth value) (membersDepth members)

end

theorem itemsDepth_le {items : List Json} :
    itemsDepth (json :: items) ≤ room ↔ depth json ≤ room ∧ itemsDepth items ≤ room := by
  rw [itemsDepth, Nat.max_le]

theorem membersDepth_le {key : String} {members : List (String × Json)} :
    membersDepth ((key, json) :: members) ≤ room ↔ depth json ≤ room ∧ membersDepth members ≤ room := by
  rw [membersDepth, Nat.max_le]

/-- Whatever follows a written value, it has room when it is no deeper than the room. -/
def FitsByDepth (json : Json) : Prop :=
  ∀ fuel room rest, 2 * visible (write json) ≤ fuel →
    (valueOverreach? fuel room (write json ++ rest) = none ↔ depth json ≤ room)

/-- How the search goes on behind an item or a member. -/
def afterComma (further : List Char → Option Bracket) : List Char → Option Bracket
  | ',' :: rest => further (skipSpace rest)
  | _ => none

private theorem valueOverreach?_flat {c : Char} (flat : opens c = false) : valueOverreach? fuel room (c :: rest) = none := by
  cases fuel with
  | zero => rw [valueOverreach?]
  | succ fuel =>
    unfold valueOverreach?
    split
    case h_1 | h_2 | h_3 | h_4 => simp_all [opens]
    case h_5 => rfl

private theorem itemsOverreach?_read (read : value fuel text = .ok (json, after)) :
    itemsOverreach? (fuel + 1) room text =
      (valueOverreach? fuel room text).or (afterComma (itemsOverreach? fuel room) (skipSpace after)) := by
  rw [itemsOverreach?, read]
  cases valueOverreach? fuel room text <;> rfl

private theorem membersOverreach?_written {key : String} (plain : Plain json)
    (read : value fuel (write json ++ after) = .ok (json, after)) :
    membersOverreach? (fuel + 1) room (writeString key ++ ':' :: write json ++ after) =
      (valueOverreach? fuel room (write json ++ after)).or
        (afterComma (membersOverreach? fuel room) (skipSpace after)) := by
  have colon : isSpace ':' = false := rfl
  simp only [writeString, List.cons_append, List.append_assoc, List.nil_append]
  rw [membersOverreach?, stringBody_written]
  simp only [skipSpace_cons colon, skipSpace_write plain, read]
  cases valueOverreach? fuel room (write json ++ after) <;> rfl

private theorem items_fitByDepth {item : Json} {others : List Json} (plain : ∀ other ∈ item :: others, Plain other)
    (each : ∀ other ∈ item :: others, FitsByDepth other) (enough : 2 * visible (writeItems (item :: others)) ≤ fuel + 1) :
    itemsOverreach? fuel room (writeItems (item :: others) ++ rest) = none ↔ itemsDepth (item :: others) ≤ room := by
  induction others generalizing item fuel with
  | nil =>
    have shown : isSpace ']' = false := rfl
    have plainItem : Plain item := plain item List.mem_cons_self
    rw [writeItems, visible_append, visible_cons shown] at enough
    obtain ⟨fuel, rfl⟩ : ∃ less, fuel = less + 1 := Nat.exists_eq_succ_of_ne_zero (by omega)
    rw [writeItems, List.append_assoc, List.singleton_append,
      itemsOverreach?_read ((readBack_of_plain plainItem).value plainItem (by omega)), Option.or_eq_none_iff,
      each item List.mem_cons_self _ _ _ (by omega), skipSpace_cons shown, itemsDepth_le]
    exact and_congr_right' (iff_of_true rfl (Nat.zero_le _))
  | cons next others ih =>
    have shown : isSpace ',' = false := rfl
    obtain ⟨plainItem, plainOthers⟩ := List.forall_mem_cons.mp plain
    obtain ⟨eachItem, eachOther⟩ := List.forall_mem_cons.mp each
    have entered := skipSpace_writeItems (plainOthers next List.mem_cons_self) others rest
    rw [writeItems, visible_append, visible_cons shown] at enough
    obtain ⟨fuel, rfl⟩ : ∃ less, fuel = less + 1 := Nat.exists_eq_succ_of_ne_zero (by omega)
    have further : itemsOverreach? fuel room (writeItems (next :: others) ++ rest) = none ↔
        itemsDepth (next :: others) ≤ room := ih plainOthers eachOther (by omega)
    rw [writeItems, List.append_assoc, List.cons_append,
      itemsOverreach?_read ((readBack_of_plain plainItem).value plainItem (by omega)), Option.or_eq_none_iff,
      eachItem _ _ _ (by omega), skipSpace_cons shown, afterComma, entered, further]
    exact itemsDepth_le.symm

private theorem members_fitByDepth {member : String × Json} {others : List (String × Json)}
    (plain : ∀ other ∈ member :: others, Plain other.2) (each : ∀ other ∈ member :: others, FitsByDepth other.2)
    (enough : 2 * visible (writeMembers (member :: others)) ≤ fuel + 1) :
    membersOverreach? fuel room (writeMembers (member :: others) ++ rest) = none ↔
      membersDepth (member :: others) ≤ room := by
  have colon : isSpace ':' = false := rfl
  induction others generalizing member fuel with
  | nil =>
    obtain ⟨key, value⟩ := member
    have shown : isSpace '\x7d' = false := rfl
    have plainValue : Plain value := plain _ List.mem_cons_self
    have fits : FitsByDepth value := each _ List.mem_cons_self
    simp only [writeMembers, visible_append, visible_cons shown, visible_cons colon] at enough
    obtain ⟨fuel, rfl⟩ : ∃ less, fuel = less + 1 := Nat.exists_eq_succ_of_ne_zero (by omega)
    rw [writeMembers, List.append_assoc, List.singleton_append,
      membersOverreach?_written plainValue ((readBack_of_plain plainValue).value plainValue (by omega)),
      Option.or_eq_none_iff, fits _ _ _ (by omega), skipSpace_cons shown, membersDepth_le]
    exact and_congr_right' (iff_of_true rfl (Nat.zero_le _))
  | cons next others ih =>
    obtain ⟨key, value⟩ := member
    have shown : isSpace ',' = false := rfl
    have plainValue : Plain value := plain _ List.mem_cons_self
    have fits : FitsByDepth value := each _ List.mem_cons_self
    simp only [writeMembers, visible_append, visible_cons shown, visible_cons colon] at enough
    obtain ⟨fuel, rfl⟩ : ∃ less, fuel = less + 1 := Nat.exists_eq_succ_of_ne_zero (by omega)
    have further : membersOverreach? fuel room (writeMembers (next :: others) ++ rest) = none ↔
        membersDepth (next :: others) ≤ room :=
      ih (List.forall_mem_cons.mp plain).2 (List.forall_mem_cons.mp each).2 (by omega)
    rw [writeMembers, List.append_assoc, List.cons_append,
      membersOverreach?_written plainValue ((readBack_of_plain plainValue).value plainValue (by omega)),
      Option.or_eq_none_iff, fits _ _ _ (by omega), skipSpace_cons shown, afterComma, skipSpace_writeMembers, further]
    exact membersDepth_le.symm

private theorem fitsByDepth_of_flat {c : Char} (shape : write json = c :: after) (flat : opens c = false)
    (level : depth json = 0) : FitsByDepth json := by
  intro fuel room rest _
  simp [shape, valueOverreach?_flat flat, level]

theorem fitsByDepth_of_plain (plain : Plain json) : FitsByDepth json := by
  induction plain with
  | null => exact fitsByDepth_of_flat rfl rfl rfl
  | bool flag => cases flag <;> exact fitsByDepth_of_flat rfl rfl rfl
  | string text => exact fitsByDepth_of_flat (by rw [write, writeString]; rfl) rfl rfl
  | @array items plain each =>
    intro fuel room rest enough
    have bracket : isSpace '[' = false := rfl
    rw [write, visible_cons bracket] at enough
    obtain ⟨fuel, rfl⟩ : ∃ less, fuel = less + 1 := Nat.exists_eq_succ_of_ne_zero (by omega)
    rw [write, List.cons_append, depth]
    cases room with
    | zero => simp [valueOverreach?]
    | succ room =>
      rw [Nat.add_le_add_iff_right]
      cases items with
      | nil => exact iff_of_true rfl (Nat.zero_le _)
      | cons item items =>
        obtain ⟨c, after, shape, shown, more, -⟩ := writeItems_begins (plain item List.mem_cons_self) items
        have inner : itemsOverreach? fuel room (writeItems (item :: items) ++ rest) = none ↔
            itemsDepth (item :: items) ≤ room := items_fitByDepth plain each (by omega)
        rw [← inner, valueOverreach?, shape, List.cons_append, skipSpace_cons shown]
        split
        next closed => exact absurd (List.cons.inj closed).1 more
        · rfl
  | @object members distinct plain each =>
    intro fuel room rest enough
    have brace : isSpace '\x7b' = false := rfl
    have quoted : isSpace '"' = false := rfl
    rw [write, visible_cons brace] at enough
    obtain ⟨fuel, rfl⟩ : ∃ less, fuel = less + 1 := Nat.exists_eq_succ_of_ne_zero (by omega)
    rw [write, List.cons_append, depth]
    cases room with
    | zero => simp [valueOverreach?]
    | succ room =>
      rw [Nat.add_le_add_iff_right]
      cases members with
      | nil => exact iff_of_true rfl (Nat.zero_le _)
      | cons member members =>
        obtain ⟨after, shape⟩ := writeMembers_begins member members
        have inner : membersOverreach? fuel room (writeMembers (member :: members) ++ rest) = none ↔
            membersDepth (member :: members) ≤ room := members_fitByDepth plain each (by omega)
        rw [← inner, valueOverreach?, shape, List.cons_append, skipSpace_cons quoted]
        split
        next closed => cases closed
        · rfl

/-- Room for a written value is room for its depth. -/
theorem overreach?_write (plain : Plain json) : overreach? room (write json) = none ↔ depth json ≤ room := by
  obtain ⟨c, rest, shape, -, -, unmarked⟩ := write_begins plain
  have fits := fitsByDepth_of_plain plain (2 * visible (write json) + 1) room [] (by omega)
  have entered := skipSpace_write plain []
  rw [List.append_nil] at entered
  rw [List.append_nil, visible] at fits
  rw [← fits]
  unfold overreach?
  split
  next marked =>
    rw [shape] at marked
    exact absurd (List.cons.inj marked).1 unmarked
  · rw [entered]

end ParamBundle.Proofs.NestedText
