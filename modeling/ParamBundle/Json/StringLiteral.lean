import ParamBundle.Json.Reading
import ParamBundle.Text.Quoted

/-! String literals. A character outside the basic plane may be escaped as two units;
every other escape stands for one character. -/

namespace ParamBundle.Json

def shortEscape? : Char → Option Char
  | '"' => some '"'
  | '\\' => some '\\'
  | '/' => some '/'
  | 'b' => some '\x08'
  | 'f' => some '\x0c'
  | 'n' => some '\n'
  | 'r' => some '\r'
  | 't' => some '\t'
  | _ => none

/-- Four hexadecimal digits. The text must go on after them: no escape can end it. -/
def codeUnit? : List Char → Option (Nat × List Char)
  | a :: b :: c :: d :: next :: rest => do
    let a ← Text.hexadecimalDigit? a
    let b ← Text.hexadecimalDigit? b
    let c ← Text.hexadecimalDigit? c
    let d ← Text.hexadecimalDigit? d
    some (((a * 16 + b) * 16 + c) * 16 + d, next :: rest)
  | _ => none

/-- The second half of a character written as two units. -/
def lowUnit? : List Char → Option (Nat × List Char)
  | '\\' :: 'u' :: rest => (codeUnit? rest).filter fun (unit, _) => 0xdc00 ≤ unit ∧ unit ≤ 0xdfff
  | _ => none

/-- Half of a character on its own stands for none. A text here cannot hold it, so the
replacement character takes its place. -/
def charOfUnit (unit : Nat) : Char :=
  if 0xd800 ≤ unit ∧ unit ≤ 0xdfff then '\ufffd' else Char.ofNat unit

/-- The character of a code escape, from what follows its letter `u`. -/
def codeEscape? (text : List Char) : Option (Char × List Char) := do
  let (unit, rest) ← codeUnit? text
  if 0xd800 ≤ unit ∧ unit ≤ 0xdbff then
    match lowUnit? rest with
    | some (low, rest) =>
      some (Char.ofNat (0x10000 + (unit - 0xd800) * 1024 + (low - 0xdc00)), rest)
    | none => some (charOfUnit unit, rest)
  else some (charOfUnit unit, rest)

theorem codeUnit?_length {text rest : List Char} {unit : Nat}
    (found : codeUnit? text = some (unit, rest)) : rest.length < text.length := by
  unfold codeUnit? at found
  split at found
  · simp only [Option.bind_eq_bind, Option.bind_eq_some_iff] at found
    obtain ⟨_, _, _, _, _, _, _, _, same⟩ := found
    cases same
    simp
  · cases found

theorem lowUnit?_length {text rest : List Char} {unit : Nat}
    (found : lowUnit? text = some (unit, rest)) : rest.length < text.length := by
  unfold lowUnit? at found
  split at found
  · have := codeUnit?_length (Option.filter_eq_some_iff.mp found).1
    simp only [List.length_cons]
    omega
  · cases found

theorem codeEscape?_length {text rest : List Char} {c : Char}
    (found : codeEscape? text = some (c, rest)) : rest.length < text.length := by
  unfold codeEscape? at found
  simp only [Option.bind_eq_bind, Option.bind_eq_some_iff] at found
  obtain ⟨⟨unit, middle⟩, first, found⟩ := found
  have shorter := codeUnit?_length first
  dsimp only at found
  split at found
  · split at found
    · rename_i second
      have := lowUnit?_length second
      simp only [Option.some.injEq, Prod.mk.injEq] at found
      rw [← found.2]
      omega
    · simp only [Option.some.injEq, Prod.mk.injEq] at found
      rw [← found.2]
      exact shorter
  · simp only [Option.some.injEq, Prod.mk.injEq] at found
    rw [← found.2]
    exact shorter

def prepend (c : Char) (read : List Char × List Char) : List Char × List Char :=
  (c :: read.1, read.2)

/-- The rest of a string after its opening quote. `opening` is the text from that quote
on, where a string that never ends is reported. -/
def stringBody (opening : List Char) : List Char → Reading (List Char)
  | [] => .error (.flawed .unclosedString opening)
  | '"' :: rest => .ok ([], rest)
  | ['\\'] => .error (.flawed .unclosedString opening)
  | '\\' :: 'u' :: rest =>
    match _ : codeEscape? rest with
    | some (c, after) => (stringBody opening after).map (prepend c)
    | none => .error (.flawed .malformedCodeEscape ('u' :: rest))
  | '\\' :: letter :: rest =>
    match shortEscape? letter with
    | some c => (stringBody opening rest).map (prepend c)
    | none => .error (.flawed .unknownEscape ('\\' :: letter :: rest))
  | c :: rest =>
    if c.toNat < 0x20 then .error (.flawed .controlCharacter (c :: rest))
    else (stringBody opening rest).map (prepend c)
termination_by text => text.length
decreasing_by
  · have := codeEscape?_length ‹_›
    simp only [List.length_cons]
    omega
  · simp only [List.length_cons]
    omega
  · simp

end ParamBundle.Json
