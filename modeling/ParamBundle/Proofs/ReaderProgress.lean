import ParamBundle.Json.Reader
import ParamBundle.Proofs.TypeTexts
import Mathlib.Data.List.TakeDrop
import Mathlib.Data.List.TakeWhile

/-! A reader of JSON goes forward. It leaves an end of what it was given, and it finds an
integer oversized only where that many digits stand in a row. -/

namespace ParamBundle.Proofs.ReaderProgress
open Json

variable {α β : Type} {text after rest : List Char} {reading : Reading α} {digits : Nat}

/-- Somewhere in the text stands a row of that many digits, more than are converted. -/
def HoldsDigits (text : List Char) (digits : Nat) : Prop :=
  integerDigitLimit < digits ∧ ∃ row, row <:+: text ∧ row.length = digits ∧ ∀ c ∈ row, isDigit c = true

structure Forward (text : List Char) (reading : Reading α) : Prop where
  leaves : ∀ item rest, reading = .ok (item, rest) → rest <:+ text
  stops : ∀ digits, reading = .error (.oversized digits) → HoldsDigits text digits

theorem HoldsDigits.later (holds : HoldsDigits after digits) (later : after <:+ text) : HoldsDigits text digits := by
  obtain ⟨many, row, within, rest⟩ := holds
  exact ⟨many, row, within.trans later.isInfix, rest⟩

namespace Forward

theorem later (forward : Forward after reading) (later : after <:+ text) : Forward text reading where
  leaves item rest read := (forward.leaves item rest read).trans later
  stops digits stopped := (forward.stops digits stopped).later later

theorem ok (item : α) (later : rest <:+ text) : Forward text (.ok (item, rest) : Reading α) where
  leaves _ _ read := by
    cases read
    exact later
  stops := nofun

theorem flawed (flaw : Flaw) : Forward text (.error (.flawed flaw rest) : Reading α) where
  leaves := nofun
  stops := nofun

theorem map (forward : Forward text reading) (f : α → β) :
    Forward text (reading.map fun (item, rest) => (f item, rest)) := by
  cases reading with
  | error stop =>
    refine ⟨nofun, ?_⟩
    intro digits stopped
    cases stopped
    exact forward.stops digits rfl
  | ok read => exact ok _ (forward.leaves _ _ rfl)

/-- A fault that is passed on is still one of the text. -/
theorem error {stop : Stop} (forward : Forward text reading) (stopped : reading = .error stop) :
    Forward text (.error stop : Reading β) where
  leaves := nofun
  stops digits same := by
    cases same
    exact forward.stops digits stopped

end Forward

theorem skipSpace_suffix (text : List Char) : skipSpace text <:+ text := List.dropWhile_suffix _

/-! ### Strings -/

private theorem codeUnit?_suffix {unit : Nat} (found : codeUnit? text = some (unit, rest)) : rest <:+ text := by
  unfold codeUnit? at found
  split at found
  · simp only [Option.bind_eq_bind, Option.bind_eq_some_iff] at found
    obtain ⟨_, _, _, _, _, _, _, _, same⟩ := found
    cases same
    exact ⟨[_, _, _, _], rfl⟩
  · cases found

private theorem lowUnit?_suffix {unit : Nat} (found : lowUnit? text = some (unit, rest)) : rest <:+ text := by
  unfold lowUnit? at found
  split at found
  next after => exact (codeUnit?_suffix (Option.filter_eq_some_iff.mp found).1).trans ⟨['\\', 'u'], rfl⟩
  · cases found

theorem codeEscape?_suffix {c : Char} (found : codeEscape? text = some (c, rest)) : rest <:+ text := by
  unfold codeEscape? at found
  obtain ⟨⟨unit, middle⟩, first, found⟩ := Option.bind_eq_some_iff.mp found
  have middleSuffix := codeUnit?_suffix first
  dsimp only at found
  split at found
  · split at found
    next low last second =>
      have same : last = rest := (Prod.mk.inj (Option.some.inj found)).2
      exact same ▸ (lowUnit?_suffix second).trans middleSuffix
    · cases found
      exact middleSuffix
  · cases found
    exact middleSuffix

theorem stringBody_forward (opening text : List Char) : Forward text (stringBody opening text) := by
  fun_induction stringBody opening text with
  | case1 => exact .flawed _
  | case2 rest => exact .ok _ (List.suffix_cons ..)
  | case3 => exact .flawed _
  | case4 rest c after found ih =>
    have escaped : after <:+ '\\' :: 'u' :: rest := (codeEscape?_suffix found).trans ⟨['\\', 'u'], rfl⟩
    exact (ih.later escaped).map (c :: ·)
  | case5 => exact .flawed _
  | case6 letter rest _ c _ ih => exact (ih.later ⟨['\\', letter], rfl⟩).map (c :: ·)
  | case7 => exact .flawed _
  | case8 => exact .flawed _
  | case9 c rest _ _ _ _ _ ih => exact (ih.later (List.suffix_cons ..)).map (c :: ·)

/-! ### Numbers -/

private theorem integerDigits?_row {row : List Char} (found : integerDigits? text = some (row, rest)) :
    text = row ++ rest ∧ ∀ c ∈ row, isDigit c = true := by
  unfold integerDigits? at found
  split at found
  · cases found
    refine ⟨rfl, ?_⟩
    simp [isDigit]
  next c rest _ =>
    split at found
    next digit =>
      rw [List.span_eq_takeWhile_dropWhile] at found
      cases found
      exact ⟨List.takeWhile_append_dropWhile.symm, fun _ => List.mem_takeWhile_imp⟩
    · cases found
  · cases found

private theorem fraction?_suffix {decimals : List Char} (found : fraction? text = some (decimals, rest)) : rest <:+ text := by
  unfold fraction? at found
  split at found
  next after =>
    rw [List.span_eq_takeWhile_dropWhile] at found
    split at found
    · cases found
    · cases found
      exact (List.dropWhile_suffix _).trans (List.suffix_cons ..)
  · cases found

private theorem signedDigits?_suffix {value : Int} (found : signedDigits? text = some (value, rest)) : rest <:+ text := by
  unfold signedDigits? at found
  split at found
  next negative unsigned cut =>
    have unsignedSuffix : unsigned <:+ text := by
      split at cut
      · cases cut
        exact List.suffix_cons ..
      · cases cut
        exact List.suffix_cons ..
      · cases cut
        exact List.suffix_rfl
    rw [List.span_eq_takeWhile_dropWhile] at found
    split at found
    · cases found
    next spanned =>
      cases spanned
      cases found
      exact (List.dropWhile_suffix _).trans unsignedSuffix

private theorem exponent?_suffix {value : Int} (found : exponent? text = some (value, rest)) : rest <:+ text := by
  unfold exponent? at found
  split at found
  · exact (signedDigits?_suffix found).trans (List.suffix_cons ..)
  · exact (signedDigits?_suffix found).trans (List.suffix_cons ..)
  · cases found

private theorem fraction?_left (text : List Char) : ((fraction? text).map (·.2)).getD text <:+ text := by
  cases found : fraction? text with
  | none => exact List.suffix_rfl
  | some read => exact fraction?_suffix found

private theorem exponent?_left (text : List Char) : ((exponent? text).map (·.2)).getD text <:+ text := by
  cases found : exponent? text with
  | none => exact List.suffix_rfl
  | some read => exact exponent?_suffix found

private theorem unsignedNumber_forward (negative : Bool) (start text : List Char) :
    Forward text (unsignedNumber negative start text) := by
  unfold unsignedNumber
  split
  · exact .flawed _
  next row after found =>
    obtain ⟨rfl, digits⟩ := integerDigits?_row found
    have restSuffix :=
      ((exponent?_left _).trans (fraction?_left after)).trans (List.suffix_append row after)
    dsimp only
    split
    · split
      next many =>
        refine ⟨nofun, ?_⟩
        intro count stopped
        cases stopped
        exact ⟨many, row, List.infix_append [] row after, rfl, digits⟩
      · exact .ok _ restSuffix
    · exact .ok _ restSuffix

private theorem scalar_forward (text : List Char) : Forward text (scalar text) := by
  unfold scalar
  split
  next found =>
    obtain ⟨⟨word, value⟩, -, dropped⟩ := List.exists_of_findSome?_eq_some found
    obtain ⟨rest, cut, rfl⟩ := Option.map_eq_some_iff.mp dropped
    exact .ok _ ⟨word.toList, (TypeTexts.dropStart?_eq_some_iff.mp cut).symm⟩
  · split
    · exact (unsignedNumber_forward ..).later (List.suffix_cons ..)
    · exact unsignedNumber_forward ..

/-! ### Values -/

structure AllForward (fuel : Nat) : Prop where
  value : ∀ text, Forward text (value fuel text)
  items : ∀ text, Forward text (items fuel text)
  members : ∀ known text, Forward text (members fuel known text)

private theorem value_forward {fuel : Nat} (inner : AllForward fuel) (text : List Char) : Forward text (value (fuel + 1) text) := by
  unfold value
  split
  next rest => exact ((stringBody_forward _ rest).later (List.suffix_cons ..)).map fun chars => Json.string (String.ofList chars)
  next rest =>
    have opened : skipSpace rest <:+ '[' :: rest := (skipSpace_suffix rest).trans (List.suffix_cons ..)
    split
    next after empty =>
      rw [empty] at opened
      exact .ok _ ((List.suffix_cons ..).trans opened)
    · exact ((inner.items _).later opened).map Json.array
  next rest =>
    have opened : skipSpace rest <:+ '\x7b' :: rest := (skipSpace_suffix rest).trans (List.suffix_cons ..)
    split
    next after empty =>
      rw [empty] at opened
      exact .ok _ ((List.suffix_cons ..).trans opened)
    · exact ((inner.members _ _).later opened).map Json.object
  · exact scalar_forward _

private theorem items_forward {fuel : Nat} (inner : AllForward fuel) (text : List Char) : Forward text (items (fuel + 1) text) := by
  unfold items
  split
  next stopped => exact (inner.value text).error stopped
  next item after read =>
    have left : skipSpace after <:+ text := (skipSpace_suffix after).trans ((inner.value text).leaves _ _ read)
    split
    next rest shape =>
      rw [shape] at left
      exact ((inner.items _).later ((skipSpace_suffix rest).trans ((List.suffix_cons ..).trans left))).map (item :: ·)
    next rest shape =>
      rw [shape] at left
      exact .ok _ ((List.suffix_cons ..).trans left)
    · exact .flawed _

private theorem members_forward {fuel : Nat} (inner : AllForward fuel) (known : List (String × Json)) (text : List Char) :
    Forward text (members (fuel + 1) known text) := by
  unfold members
  split
  next quoted =>
    have body : Forward ('"' :: quoted) (stringBody ('"' :: quoted) quoted) :=
      (stringBody_forward _ quoted).later (List.suffix_cons ..)
    split
    next stopped => exact body.error stopped
    next key after read =>
      have left : skipSpace after <:+ '"' :: quoted := (skipSpace_suffix after).trans (body.leaves _ _ read)
      split
      next rest shape =>
        rw [shape] at left
        have entered : skipSpace rest <:+ '"' :: quoted := (skipSpace_suffix rest).trans ((List.suffix_cons ..).trans left)
        have item := (inner.value (skipSpace rest)).later entered
        split
        next stopped => exact item.error stopped
        next value after read =>
          have left : skipSpace after <:+ '"' :: quoted := (skipSpace_suffix after).trans (item.leaves _ _ read)
          dsimp only
          split
          next rest shape =>
            rw [shape] at left
            exact (inner.members _ _).later ((skipSpace_suffix rest).trans ((List.suffix_cons ..).trans left))
          next rest shape =>
            rw [shape] at left
            exact .ok _ ((List.suffix_cons ..).trans left)
          · exact .flawed _
      · exact .flawed _
  · exact .flawed _

theorem all_forward (fuel : Nat) : AllForward fuel := by
  induction fuel with
  | zero =>
    refine ⟨?_, ?_, ?_⟩
    · intro text
      rw [value]
      exact .flawed _
    · intro text
      rw [items]
      exact .flawed _
    · intro known text
      rw [members]
      exact .flawed _
  | succ fuel inner => exact ⟨value_forward inner, items_forward inner, members_forward inner⟩

theorem read_oversized {source : String} (stopped : Json.read source = .error (.oversized digits)) :
    HoldsDigits source.toList digits := by
  unfold Json.read at stopped
  split at stopped
  · cases stopped
  · cases stopped
  next found =>
    cases stopped
    unfold document at found
    split at found
    · cases found
    · split at found
      next stop failed =>
        cases found
        exact ((all_forward _).value _).stops digits failed |>.later (skipSpace_suffix _)
      · split at found
        · cases found
        · cases found

end ParamBundle.Proofs.ReaderProgress
