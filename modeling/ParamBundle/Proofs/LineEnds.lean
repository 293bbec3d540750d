import ParamBundle.Proofs.DescriptorFiles

/-! Line ends inside a document. To a reader of JSON both characters that end a line are space,
and neither may stand in a string, a number or a word. Every reader of these goes through a text
and through the same text with line feeds in step: it gives the same answer and leaves the same
rest, or stops for the same flaw at the same place. -/

namespace ParamBundle.Proofs.LineEnds
open DescriptorFiles Json Text

variable {α β : Type} {c : Char} {rest text tail : List Char} {fuel : Nat}

/-! ### Normalized texts -/

def WithinLine (c : Char) : Prop := c ≠ '\r' ∧ c ≠ '\n'

theorem normalizeNewlines_cons (plain : c ≠ '\r') : normalizeNewlines (c :: rest) = c :: normalizeNewlines rest := by
  rw [normalizeNewlines]
  · rintro _ rfl -
    exact plain rfl
  · rintro rfl
    exact plain rfl

/-- A carriage return takes a line feed after it along. -/
theorem normalizeNewlines_return (rest : List Char) :
    ∃ later, normalizeNewlines ('\r' :: rest) = '\n' :: normalizeNewlines later := by
  rcases rest with _ | ⟨c, rest⟩
  · exact ⟨[], rfl⟩
  · by_cases feed : c = '\n'
    · subst feed
      exact ⟨rest, by rw [normalizeNewlines]⟩
    · refine ⟨c :: rest, ?_⟩
      rw [normalizeNewlines]
      rintro _ same
      exact feed (List.cons.inj same).1

/-- How a text begins, and how it begins with line feeds. -/
inductive Beginning : List Char → List Char → Prop where
  | nothing : Beginning [] []
  | plain {c : Char} {rest : List Char} (plain : c ≠ '\r') : Beginning (c :: rest) (c :: normalizeNewlines rest)
  | carriage (rest later : List Char) : Beginning ('\r' :: rest) ('\n' :: normalizeNewlines later)

theorem beginning (text : List Char) : Beginning text (normalizeNewlines text) := by
  cases text with
  | nil => exact .nothing
  | cons c rest =>
    by_cases ends : c = '\r'
    · subst ends
      obtain ⟨later, feed⟩ := normalizeNewlines_return rest
      rw [feed]
      exact .carriage rest later
    · rw [normalizeNewlines_cons ends]
      exact .plain ends

/-- A character inside a line stays where it is. -/
theorem normalizeNewlines_eq_cons_iff (inner : WithinLine c) :
    normalizeNewlines text = c :: tail ↔ ∃ rest, text = c :: rest ∧ normalizeNewlines rest = tail := by
  constructor
  · intro shape
    cases text with
    | nil => cases shape
    | cons first rest =>
      by_cases ends : first = '\r'
      · subst ends
        obtain ⟨later, feed⟩ := normalizeNewlines_return rest
        rw [feed] at shape
        exact absurd (List.cons.inj shape).1.symm inner.2
      · rw [normalizeNewlines_cons ends] at shape
        cases shape
        exact ⟨rest, rfl, rfl⟩
  · intro ⟨rest, shape, same⟩
    rw [shape, normalizeNewlines_cons inner.1, same]

/-- So does a row of such characters. -/
theorem normalizeNewlines_eq_append_iff {row : List Char} (inner : ∀ c ∈ row, WithinLine c) :
    normalizeNewlines text = row ++ tail ↔ ∃ rest, text = row ++ rest ∧ normalizeNewlines rest = tail := by
  induction row generalizing text with
  | nil => simp
  | cons c row ih =>
    obtain ⟨first, others⟩ := List.forall_mem_cons.mp inner
    simp only [List.cons_append, normalizeNewlines_eq_cons_iff first, ih others]
    constructor
    · rintro ⟨_, rfl, rest, rfl, same⟩
      exact ⟨rest, rfl, same⟩
    · rintro ⟨rest, rfl, same⟩
      exact ⟨row ++ rest, rfl, rest, rfl, same⟩

theorem normalizeNewlines_eq_nil_iff : normalizeNewlines text = [] ↔ text = [] := by
  fun_cases normalizeNewlines text <;> simp

theorem skipSpace_normalizeNewlines (text : List Char) :
    skipSpace (normalizeNewlines text) = normalizeNewlines (skipSpace text) := by
  have feed : isSpace '\n' = true := rfl
  have carriage : isSpace '\r' = true := rfl
  fun_induction normalizeNewlines text with
  | case1 rest ih => simpa [skipSpace, feed, carriage] using ih
  | case2 rest _ ih => simpa [skipSpace, feed, carriage] using ih
  | case3 c rest _ other ih =>
    by_cases space : isSpace c = true
    · simpa [skipSpace, space] using ih
    · have plain : c ≠ '\r' := fun same => space (same ▸ carriage)
      simp [skipSpace, space, normalizeNewlines_cons plain]
  | case4 => rfl

/-- As much fuel is provided for the one text as for the other. -/
theorem countP_normalizeNewlines (text : List Char) :
    (normalizeNewlines text).countP (!isSpace ·) = text.countP (!isSpace ·) := by
  have feed : isSpace '\n' = true := rfl
  have carriage : isSpace '\r' = true := rfl
  fun_induction normalizeNewlines text with
  | case1 rest ih => simpa [List.countP_cons, feed, carriage] using ih
  | case2 rest _ ih => simpa [List.countP_cons, feed, carriage] using ih
  | case3 c rest _ _ ih => simp [List.countP_cons, ih]
  | case4 => rfl

/-! ### Readers in step -/

def movedStop : Stop → Stop
  | .flawed flaw rest => .flawed flaw (normalizeNewlines rest)
  | .oversized digits => .oversized digits

/-- What was read of a text, as it is read of the text with line feeds. -/
def moved : Reading α → Reading α
  | .ok (item, rest) => .ok (item, normalizeNewlines rest)
  | .error stop => .error (movedStop stop)

@[simp] theorem moved_ok (item : α) (rest : List Char) : moved (.ok (item, rest)) = .ok (item, normalizeNewlines rest) := rfl

def movedRest (read : α × List Char) : α × List Char := (read.1, normalizeNewlines read.2)

/-- A reader that may find nothing, and finds the same in either text. -/
def InStep (reader : List Char → Option (α × List Char)) : Prop :=
  ∀ text, reader (normalizeNewlines text) = (reader text).map movedRest

theorem moved_map (reading : Reading α) (f : α → β) :
    moved (reading.map fun (item, rest) => (f item, rest)) = (moved reading).map fun (item, rest) => (f item, rest) := by
  cases reading <;> rfl

/-- So is a reader that takes a row of characters inside a line. -/
theorem inStep_of_row {reader : List Char → Option (α × List Char)} {spells : List Char → α → Prop}
    {follows : List Char → Prop} (inner : ∀ row item, spells row item → ∀ c ∈ row, WithinLine c)
    (stable : ∀ rest, follows (normalizeNewlines rest) ↔ follows rest)
    (reads : ∀ text item rest, reader text = some (item, rest) ↔ ∃ row, spells row item ∧ text = row ++ rest ∧ follows rest) :
    InStep reader := by
  intro text
  apply Option.ext
  rintro ⟨item, left⟩
  simp only [reads, Option.map_eq_some_iff, Prod.exists, movedRest, Prod.mk.injEq]
  constructor
  · rintro ⟨row, spelled, shape, more⟩
    obtain ⟨rest, rfl, rfl⟩ := (normalizeNewlines_eq_append_iff (inner row item spelled)).mp shape
    exact ⟨item, rest, ⟨row, spelled, rfl, (stable rest).mp more⟩, rfl, rfl⟩
  · rintro ⟨item, rest, ⟨row, spelled, rfl, more⟩, rfl, rfl⟩
    have shape := (normalizeNewlines_eq_append_iff (inner row item spelled)).mpr ⟨rest, rfl, rfl⟩
    exact ⟨row, spelled, shape, (stable rest).mpr more⟩

/-! ### Strings -/

inductive SpellsUnit : List Char → Nat → Prop where
  | digits {a b c d : Char} {u v w x : Nat} (first : hexadecimalDigit? a = some u) (second : hexadecimalDigit? b = some v)
      (third : hexadecimalDigit? c = some w) (fourth : hexadecimalDigit? d = some x) :
      SpellsUnit [a, b, c, d] (((u * 16 + v) * 16 + w) * 16 + x)

private theorem inner_of_hexadecimalDigit? {digit : Nat} (found : hexadecimalDigit? c = some digit) : WithinLine c := by
  constructor
  · rintro rfl
    cases found
  · rintro rfl
    cases found

theorem SpellsUnit.inner {row : List Char} {unit : Nat} (spelled : SpellsUnit row unit) : ∀ c ∈ row, WithinLine c := by
  cases spelled with
  | digits first second third fourth =>
    simp [inner_of_hexadecimalDigit? first, inner_of_hexadecimalDigit? second, inner_of_hexadecimalDigit? third,
      inner_of_hexadecimalDigit? fourth]

theorem codeUnit?_eq_some_iff {unit : Nat} :
    codeUnit? text = some (unit, rest) ↔ ∃ row, SpellsUnit row unit ∧ text = row ++ rest ∧ rest ≠ [] := by
  constructor
  · intro found
    unfold codeUnit? at found
    split at found
    next a b c d next later =>
      simp only [Option.bind_eq_bind, Option.bind_eq_some_iff, Option.some.injEq, Prod.mk.injEq] at found
      obtain ⟨u, first, v, second, w, third, x, fourth, rfl, rfl⟩ := found
      exact ⟨[a, b, c, d], .digits first second third fourth, rfl, List.cons_ne_nil _ _⟩
    · cases found
  · rintro ⟨row, ⟨first, second, third, fourth⟩, rfl, more⟩
    obtain ⟨next, later, rfl⟩ := List.exists_cons_of_ne_nil more
    simp [codeUnit?, first, second, third, fourth]

private theorem codeUnit?_inStep : InStep codeUnit? := by
  apply inStep_of_row (fun _ _ => SpellsUnit.inner) _ fun _ _ _ => codeUnit?_eq_some_iff
  exact fun _ => not_congr normalizeNewlines_eq_nil_iff

private theorem lowUnit?_inStep : InStep lowUnit? := by
  intro text
  have row (text left : List Char) : normalizeNewlines text = '\\' :: 'u' :: left ↔
      ∃ rest, text = '\\' :: 'u' :: rest ∧ normalizeNewlines rest = left := by
    have inner : ∀ c ∈ ['\\', 'u'], WithinLine c := by simp [WithinLine]
    exact normalizeNewlines_eq_append_iff inner
  by_cases escaped : ∃ rest, text = '\\' :: 'u' :: rest
  · obtain ⟨rest, rfl⟩ := escaped
    rw [(row _ _).mpr ⟨rest, rfl, rfl⟩, lowUnit?, lowUnit?, codeUnit?_inStep, Option.filter_map]
    rfl
  · have missing : lowUnit? text = none := by
      rw [lowUnit?]
      exact fun rest shape => escaped ⟨rest, shape⟩
    rw [missing, lowUnit?]
    · rfl
    · intro left shape
      obtain ⟨rest, same, -⟩ := (row _ _).mp shape
      exact escaped ⟨rest, same⟩

private theorem codeEscape?_inStep : InStep codeEscape? := by
  intro text
  unfold codeEscape?
  rw [codeUnit?_inStep]
  cases codeUnit? text with
  | none => rfl
  | some read =>
    obtain ⟨unit, rest⟩ := read
    simp only [Option.map_some, movedRest, Option.bind_eq_bind, Option.bind_some, lowUnit?_inStep rest]
    split
    · cases lowUnit? rest <;> simp [movedRest]
    · simp [movedRest]

private theorem prepend_moved (c : Char) (reading : Reading (List Char)) :
    moved (reading.map (prepend c)) = (moved reading).map (prepend c) := moved_map reading (c :: ·)

theorem stringBody_ordinary {opening : List Char} (unquoted : c ≠ '"') (unescaped : c ≠ '\\') :
    stringBody opening (c :: rest) =
      if c.toNat < 0x20 then .error (.flawed .controlCharacter (c :: rest)) else (stringBody opening rest).map (prepend c) := by
  rw [stringBody]
  · exact unquoted
  all_goals
    intros
    contradiction

/-- A line end in a string is a flaw of its own, and after a backslash it is no escape. -/
theorem stringBody_moved (opening text : List Char) :
    stringBody (normalizeNewlines opening) (normalizeNewlines text) = moved (stringBody opening text) := by
  have quote {rest : List Char} : normalizeNewlines ('"' :: rest) = '"' :: normalizeNewlines rest :=
    normalizeNewlines_cons (by decide)
  have backslash {rest : List Char} : normalizeNewlines ('\\' :: rest) = '\\' :: normalizeNewlines rest :=
    normalizeNewlines_cons (by decide)
  have letter {rest : List Char} : normalizeNewlines ('u' :: rest) = 'u' :: normalizeNewlines rest :=
    normalizeNewlines_cons (by decide)
  have ordinary {c : Char} {rest : List Char} (alone : c = '\\' → rest = [] → False)
      (unescaped : ∀ letter later, c = '\\' → rest = letter :: later → False) : c ≠ '\\' := by
    intro same
    cases rest with
    | nil => exact alone same rfl
    | cons letter later => exact unescaped letter later same rfl
  fun_induction stringBody opening text with
  | case1 =>
    rw [normalizeNewlines, stringBody]
    rfl
  | case2 rest =>
    rw [quote, stringBody]
    rfl
  | case3 =>
    rw [backslash, normalizeNewlines, stringBody]
    rfl
  | case4 rest c after found ih =>
    have escape : codeEscape? (normalizeNewlines rest) = some (c, normalizeNewlines after) := by
      rw [codeEscape?_inStep, found]
      rfl
    rw [backslash, letter, stringBody, escape, prepend_moved, ← ih]
  | case5 rest found =>
    have escape : codeEscape? (normalizeNewlines rest) = none := by
      rw [codeEscape?_inStep, found]
      rfl
    rw [backslash, letter, stringBody, escape, moved, movedStop, letter]
  | case6 escape rest other c found ih =>
    have plain : escape ≠ '\r' := by
      rintro rfl
      cases found
    rw [backslash, normalizeNewlines_cons plain, stringBody, found, prepend_moved, ← ih]
    exact other
  | case7 escape rest other found =>
    -- a backslash may stand before a line end, and no kind of it is an escape
    by_cases ends : escape = '\r'
    · subst ends
      obtain ⟨later, feed⟩ := normalizeNewlines_return rest
      rw [backslash, feed, stringBody, ← feed, ← backslash]
      · rfl
      · decide
    · rw [backslash, normalizeNewlines_cons ends, stringBody, found, moved, movedStop, backslash, normalizeNewlines_cons ends]
      exact other
  | case8 c rest unquoted alone _ unescaped control =>
    -- line ends are control characters, so a string stops at either kind
    by_cases ends : c = '\r'
    · subst ends
      obtain ⟨later, feed⟩ := normalizeNewlines_return rest
      rw [feed, stringBody_ordinary (by decide) (by decide), if_pos (by decide), ← feed]
      rfl
    · rw [normalizeNewlines_cons ends, stringBody_ordinary unquoted (ordinary alone unescaped), if_pos control, moved,
        movedStop, normalizeNewlines_cons ends]
  | case9 c rest unquoted alone _ unescaped visible ih =>
    have plain : c ≠ '\r' := by
      rintro rfl
      exact visible (by decide)
    rw [normalizeNewlines_cons plain, stringBody_ordinary unquoted (ordinary alone unescaped), if_neg visible,
      prepend_moved, ← ih]

/-! ### Numbers -/

private theorem span_normalizeNewlines (text : List Char) : (normalizeNewlines text).span isDigit = movedRest (text.span isDigit) := by
  have feed : isDigit '\n' = false := rfl
  have carriage : isDigit '\r' = false := rfl
  simp only [List.span_eq_takeWhile_dropWhile, movedRest]
  induction text with
  | nil => rfl
  | cons c rest ih =>
    have begins := beginning (c :: rest)
    generalize shape : normalizeNewlines (c :: rest) = fed at begins ⊢
    cases begins with
    | plain plain => by_cases digit : isDigit c = true <;> simp_all
    | carriage rest later => simp [feed, carriage, shape]

private theorem integerDigits?_cons (other : c ≠ '0') :
    integerDigits? (c :: rest) = if isDigit c then some ((c :: rest).span isDigit) else none := by
  rw [integerDigits?]
  exact other

private theorem integerDigits?_inStep : InStep integerDigits? := by
  intro text
  have begins := beginning text
  generalize shape : normalizeNewlines text = fed at begins ⊢
  cases begins with
  | nothing => rfl
  | @plain c rest plain =>
    by_cases zero : c = '0'
    · subst zero
      rfl
    · rw [integerDigits?_cons zero, integerDigits?_cons zero, ← shape, span_normalizeNewlines]
      split <;> rfl
  | carriage rest later => rfl

private theorem fraction?_inStep : InStep fraction? := by
  intro text
  have begins := beginning text
  generalize normalizeNewlines text = fed at begins ⊢
  cases begins with
  | nothing => rfl
  | @plain c rest plain =>
    by_cases point : c = '.'
    · subst point
      simp only [fraction?, span_normalizeNewlines]
      rcases rest.span isDigit with ⟨_ | ⟨digit, digits⟩, left⟩ <;> rfl
    · rw [fraction?, fraction?]
      · rfl
      all_goals simpa using point
  | carriage rest later => rfl

/-- Without a sign in front the digits begin at once. -/
theorem signedDigits?_unsigned (minus : c ≠ '-') (plus : c ≠ '+') :
    signedDigits? (c :: rest) = match (c :: rest).span isDigit with
      | ([], _) => none
      | (digits, rest) => some ((digitsValue digits : Int), rest) := by
  unfold signedDigits?
  split
  next negative unsigned cut =>
    split at cut
    next shape => exact absurd (List.cons.inj shape).1 minus
    next shape => exact absurd (List.cons.inj shape).1 plus
    next =>
      cases cut
      rfl

private theorem signedDigits?_inStep : InStep signedDigits? := by
  intro text
  have begins := beginning text
  generalize shape : normalizeNewlines text = fed at begins ⊢
  cases begins with
  | nothing => rfl
  | @plain c rest plain =>
    by_cases minus : c = '-'
    · subst minus
      simp only [signedDigits?, span_normalizeNewlines]
      rcases rest.span isDigit with ⟨_ | ⟨digit, digits⟩, left⟩ <;> rfl
    · by_cases plus : c = '+'
      · subst plus
        simp only [signedDigits?, span_normalizeNewlines]
        rcases rest.span isDigit with ⟨_ | ⟨digit, digits⟩, left⟩ <;> rfl
      · rw [signedDigits?_unsigned minus plus, signedDigits?_unsigned minus plus, ← shape, span_normalizeNewlines]
        rcases (c :: rest).span isDigit with ⟨_ | ⟨digit, digits⟩, left⟩ <;> rfl
  | carriage rest later => rfl

private theorem exponent?_inStep : InStep exponent? := by
  intro text
  have begins := beginning text
  generalize normalizeNewlines text = fed at begins ⊢
  cases begins with
  | nothing => rfl
  | @plain c rest plain =>
    by_cases small : c = 'e'
    · subst small
      exact signedDigits?_inStep rest
    · by_cases big : c = 'E'
      · subst big
        exact signedDigits?_inStep rest
      · rw [exponent?, exponent?]
        · rfl
        all_goals simp [small, big]
  | carriage rest later => rfl

/-- What is left when a part that may be missing has been read. -/
theorem InStep.left {reader : List Char → Option (α × List Char)} (inStep : InStep reader) (text : List Char) :
    ((reader (normalizeNewlines text)).map (·.2)).getD (normalizeNewlines text) =
      normalizeNewlines (((reader text).map (·.2)).getD text) := by
  rw [inStep]
  cases reader text <;> rfl

private theorem unsignedNumber_moved (negative : Bool) (start text : List Char) :
    unsignedNumber negative (normalizeNewlines start) (normalizeNewlines text) = moved (unsignedNumber negative start text) := by
  unfold unsignedNumber
  rw [integerDigits?_inStep]
  cases integerDigits? text with
  | none => rfl
  | some read =>
    obtain ⟨whole, rest⟩ := read
    simp only [Option.map_some, movedRest, fraction?_inStep.left]
    rw [fraction?_inStep]
    cases fraction? rest with
    | none =>
      simp only [Option.map_none, Option.getD_none, exponent?_inStep.left]
      rw [exponent?_inStep]
      cases exponent? rest with
      | none =>
        dsimp only [Option.map_none]
        rw [apply_ite moved]
        rfl
      | some read => rfl
    | some read =>
      obtain ⟨decimals, left⟩ := read
      simp only [Option.map_some, movedRest, Option.getD_some, exponent?_inStep.left]
      rw [exponent?_inStep]
      cases exponent? left <;> rfl

private theorem dropStart?_normalizeNewlines {word : List Char} (inner : ∀ c ∈ word, WithinLine c) (text : List Char) :
    dropStart? word (normalizeNewlines text) = (dropStart? word text).map normalizeNewlines := by
  apply Option.ext
  intro left
  simp only [TypeTexts.dropStart?_eq_some_iff, Option.map_eq_some_iff, normalizeNewlines_eq_append_iff inner]

private theorem words_inner : ∀ entry ∈ words, ∀ c ∈ entry.1.toList, WithinLine c := by
  simp [words, WithinLine]

theorem word?_inStep : InStep word? := by
  intro text
  have each (entries : List (String × Json)) (inner : ∀ entry ∈ entries, ∀ c ∈ entry.1.toList, WithinLine c) :
      (entries.findSome? fun entry => (dropStart? entry.1.toList (normalizeNewlines text)).map (entry.2, ·)) =
        (entries.findSome? fun entry => (dropStart? entry.1.toList text).map (entry.2, ·)).map movedRest := by
    induction entries with
    | nil => rfl
    | cons entry entries ih =>
      obtain ⟨word, value⟩ := entry
      obtain ⟨first, others⟩ := List.forall_mem_cons.mp inner
      simp only [List.findSome?_cons, dropStart?_normalizeNewlines first, ih others]
      cases dropStart? word.toList text <;> rfl
  exact each words words_inner

theorem scalar_moved (text : List Char) : scalar (normalizeNewlines text) = moved (scalar text) := by
  unfold scalar
  rw [word?_inStep]
  cases word? text with
  | some read => rfl
  | none =>
    have minus : WithinLine '-' := by simp [WithinLine]
    by_cases negative : ∃ rest, text = '-' :: rest
    · obtain ⟨rest, rfl⟩ := negative
      have number := unsignedNumber_moved true ('-' :: rest) rest
      rwa [normalizeNewlines_cons minus.1] at number ⊢
    · have unsigned : ∀ left, normalizeNewlines text = '-' :: left → False := by
        intro left shape
        obtain ⟨rest, same, -⟩ := (normalizeNewlines_eq_cons_iff minus).mp shape
        exact negative ⟨rest, same⟩
      dsimp only [Option.map_none]
      split
      next shape => exact absurd shape (unsigned _)
      · split
        next rest _ => exact absurd ⟨rest, rfl⟩ negative
        · exact unsignedNumber_moved false text text

end ParamBundle.Proofs.LineEnds
