import ParamBundle.Text.CaseTable

/-! Capital letters. One character may need several to write its capital: sharp s gives
two, some ligatures three. -/

namespace ParamBundle.Text

/-- The ASCII letters are settled before the tables are looked at, which hold none of
them. -/
def uppercaseChar (c : Char) : List Char :=
  if c.toNat < 0x80 then [c.toUpper]
  else
    match caseExpansions.lookup c.toNat with
    | some codes => codes.map Char.ofNat
    | none =>
      match caseRuns.find? (·.contains c.toNat) with
      | some run => [Char.ofNat (Int.toNat (c.toNat + run.shift))]
      | none => [c]

/-- Only the first character changes. -/
def capitalize (text : String) : String :=
  match text.toList with
  | [] => ""
  | first :: rest => String.ofList (uppercaseChar first ++ rest)

end ParamBundle.Text
