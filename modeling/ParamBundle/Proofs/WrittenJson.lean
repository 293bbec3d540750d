import ParamBundle.Json.Display
import ParamBundle.Json.Reader
import Mathlib.Data.List.Basic

/-! A compact writer of JSON, beside the reader. It shows that every value without numbers
stands for some text: what is written is read back as the value it was written from. -/

namespace ParamBundle.Proofs.WrittenJson
open Json

/-! ### The writer -/

/-- Quotes, backslashes and control characters are escaped; every other character stands
for itself. -/
def writeChar (c : Char) : List Char :=
  if c = '"' ∨ c = '\\' then ['\\', c]
  else if c.toNat < 0x20 then ['\\', 'u', '0', '0', Nat.digitChar (c.toNat / 16), Nat.digitChar (c.toNat % 16)]
  else [c]

def writeString (text : String) : List Char := '"' :: text.toList.flatMap writeChar ++ ['"']

mutual

def write : Json → List Char
  | .null => "null".toList
  | .bool true => "true".toList
  | .bool false => "false".toList
  | .number value => value.display.toList
  | .string text => writeString text
  | .array items => '[' :: writeItems items
  | .object members => '\x7b' :: writeMembers members

def writeItems : List Json → List Char
  | [] => [']']
  | [item] => write item ++ [']']
  | item :: next :: items => write item ++ ',' :: writeItems (next :: items)

def writeMembers : List (String × Json) → List Char
  | [] => ['\x7d']
  | [(key, value)] => writeString key ++ ':' :: write value ++ ['\x7d']
  | (key, value) :: next :: members => writeString key ++ ':' :: write value ++ ',' :: writeMembers (next :: members)

end

/-- No number, and no key twice in an object. -/
inductive Plain : Json → Prop where
  | null : Plain .null
  | bool (value : Bool) : Plain (.bool value)
  | string (text : String) : Plain (.string text)
  | array {items : List Json} (each : ∀ item ∈ items, Plain item) : Plain (.array items)
  | object {members : List (String × Json)} (distinct : (members.map (·.1)).Nodup)
      (each : ∀ member ∈ members, Plain member.2) : Plain (.object members)

theorem plain_array_iff {items : List Json} : Plain (.array items) ↔ ∀ item ∈ items, Plain item := by
  refine ⟨fun plain => ?_, .array⟩
  cases plain with
  | array each => exact each

theorem plain_object_iff {members : List (String × Json)} :
    Plain (.object members) ↔ (members.map (·.1)).Nodup ∧ ∀ member ∈ members, Plain member.2 := by
  refine ⟨fun plain => ?_, fun ⟨distinct, each⟩ => .object distinct each⟩
  cases plain with
  | object distinct each => exact ⟨distinct, each⟩

/-! ### Strings -/

variable {opening rest : List Char}

private theorem hexadecimalDigit?_digitChar : ∀ digit < 16, Text.hexadecimalDigit? (Nat.digitChar digit) = some digit := by
  decide

private theorem codeEscape?_written {c next : Char} (control : c.toNat < 0x20) :
    codeEscape? ('0' :: '0' :: Nat.digitChar (c.toNat / 16) :: Nat.digitChar (c.toNat % 16) :: next :: rest) =
      some (c, next :: rest) := by
  have high := hexadecimalDigit?_digitChar (c.toNat / 16) (by omega)
  have low := hexadecimalDigit?_digitChar (c.toNat % 16) (by omega)
  have zero : Text.hexadecimalDigit? '0' = some 0 := rfl
  have code : ((0 * 16 + 0) * 16 + c.toNat / 16) * 16 + c.toNat % 16 = c.toNat := by omega
  have unit : codeUnit? ('0' :: '0' :: Nat.digitChar (c.toNat / 16) :: Nat.digitChar (c.toNat % 16) :: next :: rest) =
      some (c.toNat, next :: rest) := by
    simp only [codeUnit?, zero, high, low, Option.bind_eq_bind, Option.bind_some, code]
  have alone : charOfUnit c.toNat = c := by
    rw [charOfUnit, if_neg (by omega), Char.ofNat_toNat]
  rw [codeEscape?, unit, Option.bind_eq_bind, Option.bind_some]
  exact (if_neg (by omega)).trans (by rw [alone])

private theorem stringBody_writeChar (c next : Char) :
    stringBody opening (writeChar c ++ next :: rest) = (stringBody opening (next :: rest)).map (prepend c) := by
  unfold writeChar
  split
  next escaped =>
    obtain rfl | rfl := escaped
    · rw [List.cons_append, List.singleton_append, stringBody]
      · rfl
      · simp
    · rw [List.cons_append, List.singleton_append, stringBody]
      · rfl
      · simp
  next plain =>
    split
    next control =>
      simp only [List.cons_append, List.nil_append]
      rw [stringBody, codeEscape?_written control]
    next visible =>
      rw [List.singleton_append, stringBody, if_neg visible]
      all_goals grind

theorem stringBody_written (chars : List Char) :
    stringBody opening (chars.flatMap writeChar ++ '"' :: rest) = .ok (chars, rest) := by
  induction chars with
  | nil => rw [List.flatMap_nil, List.nil_append, stringBody]
  | cons c chars ih =>
    obtain ⟨next, after, shape⟩ : ∃ next after, chars.flatMap writeChar ++ '"' :: rest = next :: after :=
      List.exists_cons_of_ne_nil (by simp)
    rw [List.flatMap_cons, List.append_assoc, shape, stringBody_writeChar, ← shape, ih]
    rfl

/-! ### Values -/

variable {fuel : Nat} {json : Json}

/-- The characters that readers have fuel for. -/
def visible (text : List Char) : Nat := text.countP (!isSpace ·)

theorem visible_append (text other : List Char) : visible (text ++ other) = visible text + visible other :=
  List.countP_append

theorem visible_cons {c : Char} (shown : isSpace c = false) (text : List Char) : visible (c :: text) = visible text + 1 :=
  List.countP_cons_of_pos (by simp [shown])

theorem skipSpace_cons {c : Char} (shown : isSpace c = false) : skipSpace (c :: rest) = c :: rest :=
  List.dropWhile_cons_of_neg (by simp [shown])

/-- A value begins with what is no space, no end of a list and no byte order mark. -/
def Starts (c : Char) : Prop := isSpace c = false ∧ c ≠ ']' ∧ c ≠ '\ufeff'

theorem write_begins (plain : Plain json) : ∃ c rest, write json = c :: rest ∧ Starts c := by
  cases plain with
  | null => exact ⟨'n', ['u', 'l', 'l'], rfl, rfl, by decide, by decide⟩
  | bool value =>
    cases value with
    | true => exact ⟨'t', ['r', 'u', 'e'], rfl, rfl, by decide, by decide⟩
    | false => exact ⟨'f', ['a', 'l', 's', 'e'], rfl, rfl, by decide, by decide⟩
  | string text => exact ⟨'"', _, by rw [write, writeString]; rfl, rfl, by decide, by decide⟩
  | array => exact ⟨'[', _, by rw [write], rfl, by decide, by decide⟩
  | object => exact ⟨'\x7b', _, by rw [write], rfl, by decide, by decide⟩

theorem writeItems_begins {item : Json} (plain : Plain item) (others : List Json) :
    ∃ c rest, writeItems (item :: others) = c :: rest ∧ Starts c := by
  obtain ⟨c, rest, shape, fine⟩ := write_begins plain
  cases others with
  | nil => exact ⟨c, _, by rw [writeItems, shape, List.cons_append], fine⟩
  | cons next others => exact ⟨c, _, by rw [writeItems, shape, List.cons_append], fine⟩

theorem writeMembers_begins (member : String × Json) (others : List (String × Json)) :
    ∃ rest, writeMembers (member :: others) = '"' :: rest := by
  obtain ⟨key, value⟩ := member
  cases others with
  | nil => exact ⟨_, by rw [writeMembers, writeString]; rfl⟩
  | cons next others => exact ⟨_, by rw [writeMembers, writeString]; rfl⟩

theorem skipSpace_write (plain : Plain json) (rest : List Char) : skipSpace (write json ++ rest) = write json ++ rest := by
  obtain ⟨c, more, shape, shown, -⟩ := write_begins plain
  rw [shape, List.cons_append, skipSpace_cons shown]

theorem skipSpace_writeItems {item : Json} (plain : Plain item) (others : List Json) (rest : List Char) :
    skipSpace (writeItems (item :: others) ++ rest) = writeItems (item :: others) ++ rest := by
  obtain ⟨c, more, shape, shown, -⟩ := writeItems_begins plain others
  rw [shape, List.cons_append, skipSpace_cons shown]

theorem skipSpace_writeMembers (member : String × Json) (others : List (String × Json)) (rest : List Char) :
    skipSpace (writeMembers (member :: others) ++ rest) = writeMembers (member :: others) ++ rest := by
  have quoted : isSpace '"' = false := rfl
  obtain ⟨more, shape⟩ := writeMembers_begins member others
  rw [shape, List.cons_append, skipSpace_cons quoted]

def ReadBack (json : Json) : Prop :=
  ∀ fuel rest, 2 * visible (write json) ≤ fuel + 1 → value (fuel + 1) (write json ++ rest) = .ok (json, rest)

/-- The fuel of a value is never none. -/
theorem ReadBack.value (back : ReadBack json) (plain : Plain json) (enough : 2 * visible (write json) ≤ fuel) :
    Json.value fuel (write json ++ rest) = .ok (json, rest) := by
  obtain ⟨c, after, shape, shown, -⟩ := write_begins plain
  have some : 0 < visible (write json) := by
    rw [shape, visible_cons shown]
    omega
  obtain ⟨less, rfl⟩ : ∃ less, fuel = less + 1 := Nat.exists_eq_succ_of_ne_zero (by omega)
  exact back less rest enough

private theorem null_readBack : ReadBack .null := by
  intro fuel rest _
  rw [write, value] <;> simp [scalar, word?, words, Text.dropStart?]

private theorem bool_readBack (flag : Bool) : ReadBack (.bool flag) := by
  intro fuel rest _
  cases flag <;> rw [write, value] <;> simp [scalar, word?, words, Text.dropStart?]

private theorem string_readBack (text : String) : ReadBack (.string text) := by
  intro fuel rest _
  rw [write, writeString, List.cons_append, List.cons_append, value, List.append_assoc, List.singleton_append,
    stringBody_written]
  simp [Except.map]

private theorem items_readBack {item : Json} {others : List Json} (plain : ∀ other ∈ item :: others, Plain other)
    (each : ∀ other ∈ item :: others, ReadBack other) (enough : 2 * visible (writeItems (item :: others)) ≤ fuel + 1) :
    items fuel (writeItems (item :: others) ++ rest) = .ok (item :: others, rest) := by
  induction others generalizing item fuel with
  | nil =>
    have shown : isSpace ']' = false := rfl
    rw [writeItems, visible_append, visible_cons shown] at enough
    obtain ⟨fuel, rfl⟩ : ∃ less, fuel = less + 1 := Nat.exists_eq_succ_of_ne_zero (by omega)
    rw [writeItems, List.append_assoc, List.singleton_append, items,
      (each item List.mem_cons_self).value (plain item List.mem_cons_self) (by omega)]
    simp only [skipSpace_cons shown]
  | cons next others ih =>
    have shown : isSpace ',' = false := rfl
    obtain ⟨plainItem, plainOthers⟩ := List.forall_mem_cons.mp plain
    obtain ⟨eachItem, eachOther⟩ := List.forall_mem_cons.mp each
    have entered := skipSpace_writeItems (plainOthers next List.mem_cons_self) others rest
    rw [writeItems, visible_append, visible_cons shown] at enough
    obtain ⟨fuel, rfl⟩ : ∃ less, fuel = less + 1 := Nat.exists_eq_succ_of_ne_zero (by omega)
    have further : items fuel (writeItems (next :: others) ++ rest) = .ok (next :: others, rest) :=
      ih plainOthers eachOther (by omega)
    rw [writeItems, List.append_assoc, List.cons_append, items, eachItem.value plainItem (by omega)]
    simp only [skipSpace_cons shown]
    rw [entered, further]
    rfl

private theorem setMember_new {key : String} {known : List (String × Json)} (fresh : key ∉ known.map (·.1)) :
    setMember key json known = known ++ [(key, json)] := by
  induction known with
  | nil => rfl
  | cons member known ih =>
    obtain ⟨first, value⟩ := member
    simp only [List.map_cons, List.mem_cons, not_or] at fresh
    rw [setMember, if_neg (Ne.symm fresh.1), ih fresh.2, List.cons_append]

/-- How an object goes on after one of its members. -/
def afterMember (fuel : Nat) (known : List (String × Json)) : List Char → Reading (List (String × Json))
  | ',' :: rest => members fuel known (skipSpace rest)
  | '\x7d' :: rest => .ok (known, rest)
  | rest => .error (.flawed .commaExpected rest)

private theorem member_readBack {key : String} {known : List (String × Json)} {after : List Char}
    (fresh : key ∉ known.map (·.1)) (back : ReadBack json) (plain : Plain json) (enough : 2 * visible (write json) ≤ fuel) :
    members (fuel + 1) known (writeString key ++ ':' :: write json ++ after) =
      afterMember fuel (known ++ [(key, json)]) (skipSpace after) := by
  have colon : isSpace ':' = false := rfl
  simp only [writeString, List.cons_append, List.append_assoc, List.nil_append]
  rw [members, stringBody_written]
  simp only [skipSpace_cons colon, skipSpace_write plain, back.value plain enough, String.ofList_toList, setMember_new fresh]
  rfl

private theorem fresh_of_distinct {member : String × Json} {others known : List (String × Json)}
    (distinct : ((known ++ member :: others).map (·.1)).Nodup) : member.1 ∉ known.map (·.1) := by
  simp only [List.map_append, List.nodup_append] at distinct
  grind

private theorem members_readBack {member : String × Json} {others known : List (String × Json)}
    (distinct : ((known ++ member :: others).map (·.1)).Nodup) (plain : ∀ other ∈ member :: others, Plain other.2)
    (each : ∀ other ∈ member :: others, ReadBack other.2)
    (enough : 2 * visible (writeMembers (member :: others)) ≤ fuel + 1) :
    members fuel known (writeMembers (member :: others) ++ rest) = .ok (known ++ member :: others, rest) := by
  have colon : isSpace ':' = false := rfl
  induction others generalizing member known fuel with
  | nil =>
    obtain ⟨key, value⟩ := member
    have shown : isSpace '\x7d' = false := rfl
    have fresh : key ∉ known.map (·.1) := fresh_of_distinct distinct
    simp only [writeMembers, visible_append, visible_cons shown, visible_cons colon] at enough
    obtain ⟨fuel, rfl⟩ : ∃ less, fuel = less + 1 := Nat.exists_eq_succ_of_ne_zero (by omega)
    have back : ReadBack value := each _ List.mem_cons_self
    have plainValue : Plain value := plain _ List.mem_cons_self
    rw [writeMembers, List.append_assoc, List.singleton_append, member_readBack fresh back plainValue (by omega),
      skipSpace_cons shown, afterMember]
  | cons next others ih =>
    obtain ⟨key, value⟩ := member
    have shown : isSpace ',' = false := rfl
    have fresh : key ∉ known.map (·.1) := fresh_of_distinct distinct
    simp only [writeMembers, visible_append, visible_cons shown, visible_cons colon] at enough
    obtain ⟨fuel, rfl⟩ : ∃ less, fuel = less + 1 := Nat.exists_eq_succ_of_ne_zero (by omega)
    have further : members fuel (known ++ [(key, value)]) (writeMembers (next :: others) ++ rest) =
        .ok (known ++ [(key, value)] ++ next :: others, rest) := by
      apply ih
      · rwa [List.append_assoc, List.singleton_append]
      · exact (List.forall_mem_cons.mp plain).2
      · exact (List.forall_mem_cons.mp each).2
      · omega
    have back : ReadBack value := each _ List.mem_cons_self
    have plainValue : Plain value := plain _ List.mem_cons_self
    rw [writeMembers, List.append_assoc, List.cons_append, member_readBack fresh back plainValue (by omega),
      skipSpace_cons shown, afterMember, skipSpace_writeMembers, further, List.append_assoc, List.singleton_append]

theorem readBack_of_plain (plain : Plain json) : ReadBack json := by
  induction plain with
  | null => exact null_readBack
  | bool flag => exact bool_readBack flag
  | string text => exact string_readBack text
  | @array items plain each =>
    intro fuel rest enough
    cases items with
    | nil =>
      rw [write, writeItems, List.cons_append, List.singleton_append, value]
      rfl
    | cons item items =>
      obtain ⟨c, after, shape, shown, more, -⟩ := writeItems_begins (plain item List.mem_cons_self) items
      have bracket : isSpace '[' = false := rfl
      rw [write, visible_cons bracket] at enough
      have read : Json.items fuel (writeItems (item :: items) ++ rest) = .ok (item :: items, rest) :=
        items_readBack plain each (by omega)
      rw [write, List.cons_append, value]
      rw [shape, List.cons_append] at read ⊢
      rw [skipSpace_cons shown]
      split
      next closed => exact absurd (List.cons.inj closed).1 more
      · rw [read]
        rfl
  | @object members distinct plain each =>
    intro fuel rest enough
    cases members with
    | nil =>
      rw [write, writeMembers, List.cons_append, List.singleton_append, value]
      rfl
    | cons member members =>
      obtain ⟨after, shape⟩ := writeMembers_begins member members
      have brace : isSpace '\x7b' = false := rfl
      have quoted : isSpace '"' = false := rfl
      rw [write, visible_cons brace] at enough
      have read : Json.members fuel [] (writeMembers (member :: members) ++ rest) = .ok (member :: members, rest) :=
        members_readBack distinct plain each (by omega)
      rw [write, List.cons_append, value]
      rw [shape, List.cons_append] at read ⊢
      rw [skipSpace_cons quoted]
      split
      next closed => cases closed
      · rw [read]
        rfl

/-- What is written is a document, and reading it gives back what was written. -/
theorem read_write (plain : Plain json) : Json.read (String.ofList (write json)) = .ok json := by
  obtain ⟨c, rest, shape, -, -, unmarked⟩ := write_begins plain
  have back := readBack_of_plain plain (2 * visible (write json)) [] (by omega)
  have document : document (write json) = .ok json := by
    rw [List.append_nil] at back
    unfold Json.document
    split
    next marked =>
      rw [shape] at marked
      exact absurd (List.cons.inj marked).1 unmarked
    · have entered := skipSpace_write plain []
      rw [List.append_nil] at entered
      rw [visible] at back
      rw [entered, back]
      rfl
  rw [Json.read, String.toList_ofList, document]

/-- A text that is spelled as its value is written is read as that value. -/
theorem read_spelled {text : String} (plain : Plain json) (spelled : text = String.ofList (write json)) :
    Json.read text = .ok json := by
  rw [spelled, read_write plain]

/-! ### Line ends -/

private theorem digitChar_ne_carriageReturn : ∀ digit < 16, Nat.digitChar digit ≠ '\r' := by decide

private theorem carriageReturn_not_mem_writeChar (c : Char) : '\r' ∉ writeChar c := by
  unfold writeChar
  split
  next escaped => obtain rfl | rfl := escaped <;> decide
  next =>
    split
    next control =>
      have high := (digitChar_ne_carriageReturn (c.toNat / 16) (by omega)).symm
      have low := (digitChar_ne_carriageReturn (c.toNat % 16) (by omega)).symm
      simp [high, low]
    next visible =>
      rw [List.mem_singleton]
      rintro rfl
      exact visible (by decide)

private theorem carriageReturn_not_mem_writeString (text : String) : '\r' ∉ writeString text := by
  simp [writeString, carriageReturn_not_mem_writeChar]

private theorem carriageReturn_not_mem_writeItems {items : List Json} (each : ∀ item ∈ items, '\r' ∉ write item) :
    '\r' ∉ writeItems items := by
  induction items with
  | nil => decide
  | cons item items ih =>
    obtain ⟨first, others⟩ := List.forall_mem_cons.mp each
    cases items with
    | nil => simp [writeItems, first]
    | cons next items => simp [writeItems, first, ih others]

private theorem carriageReturn_not_mem_writeMembers {members : List (String × Json)}
    (each : ∀ member ∈ members, '\r' ∉ write member.2) : '\r' ∉ writeMembers members := by
  induction members with
  | nil => decide
  | cons member members ih =>
    obtain ⟨key, value⟩ := member
    obtain ⟨first, others⟩ := List.forall_mem_cons.mp each
    cases members with
    | nil => simp [writeMembers, carriageReturn_not_mem_writeString, first]
    | cons next members => simp [writeMembers, carriageReturn_not_mem_writeString, first, ih others]

/-- Line ends are escaped, so no reader of lines changes what is written. -/
theorem carriageReturn_not_mem_write (plain : Plain json) : '\r' ∉ write json := by
  induction plain with
  | null => decide
  | bool flag => cases flag <;> decide
  | string text => exact carriageReturn_not_mem_writeString text
  | array _ each => simp [write, carriageReturn_not_mem_writeItems each]
  | object _ _ each => simp [write, carriageReturn_not_mem_writeMembers each]

end ParamBundle.Proofs.WrittenJson
