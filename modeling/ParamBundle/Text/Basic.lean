/-! Cutting texts at their ends and into lines: known affixes, blanks, line feeds. -/

namespace ParamBundle.Text

/-! ### Affixes

Each removal answers `none` when the text does not carry the affix, so that a caller can
tell the cases apart. -/

section Affix
variable {α : Type} [DecidableEq α]

def dropStart? : List α → List α → Option (List α)
  | [], text => some text
  | _ :: _, [] => none
  | wanted :: affix, item :: text => if wanted = item then dropStart? affix text else none

def dropEnd? (affix text : List α) : Option (List α) :=
  (dropStart? affix.reverse text.reverse).map List.reverse

end Affix

/-! ### Blanks

A text that holds nothing else counts as missing, and blanks at the end of a type are not
part of it. -/

/-- The separators and spaces of Unicode, with the control characters that end a line,
a page or a record. -/
def isBlankChar (c : Char) : Bool :=
  let code := c.toNat
  (0x9 ≤ code && code ≤ 0xd) || (0x1c ≤ code && code ≤ 0x20) || code == 0x85 || code == 0xa0 ||
    code == 0x1680 || (0x2000 ≤ code && code ≤ 0x200a) || code == 0x2028 || code == 0x2029 ||
    code == 0x202f || code == 0x205f || code == 0x3000

/-- Removes the longest end of the list whose members all satisfy the test. -/
def dropTrailing {α : Type} (test : α → Bool) : List α → List α
  | [] => []
  | item :: rest =>
    match dropTrailing test rest with
    | [] => if test item then [] else [item]
    | kept => item :: kept

def isBlank (text : String) : Bool := text.toList.all isBlankChar

def trimEnd (text : String) : String := String.ofList (dropTrailing isBlankChar text.toList)

/-! ### Lines

Whatever system wrote a file, a line read from it ends with a line feed. -/

/-- Carriage return, alone or before a line feed, becomes a line feed. -/
def normalizeNewlines : List Char → List Char
  | '\r' :: '\n' :: rest => '\n' :: normalizeNewlines rest
  | '\r' :: rest => '\n' :: normalizeNewlines rest
  | c :: rest => c :: normalizeNewlines rest
  | [] => []

/-- Every line, the last one too, is closed by a line feed. -/
def unlines (lines : List String) : String := String.join (lines.map (· ++ "\n"))

end ParamBundle.Text
