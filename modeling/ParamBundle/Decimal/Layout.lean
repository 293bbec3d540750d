import ParamBundle.Decimal.Shortest

/-! How a decimal is written: with the point in place between 0.0001 and 10^16, with an
exponent of at least two digits beyond. A whole number keeps one zero after the point. -/

namespace ParamBundle.Decimal

def zeros (count : Nat) : List Char := List.replicate count '0'

def exponentText (exponent : Int) : List Char :=
  let digits := (toString exponent.natAbs).toList
  (if exponent < 0 then '-' else '+') :: (zeros (2 - digits.length) ++ digits)

/-- Writes digits with the point before the power of ten `exponent`. -/
def layout (decimal : Shortest) : List Char :=
  let digits := (toString decimal.digits).toList
  let leading : Int := decimal.exponent + digits.length - 1
  if decimal.digits = 0 then "0.0".toList
  else if leading < -4 ∨ 16 ≤ leading then
    match digits with
    | [only] => only :: 'e' :: exponentText leading
    | first :: rest => first :: '.' :: (rest ++ 'e' :: exponentText leading)
    | [] => []
  else if leading < 0 then "0.".toList ++ zeros ((-leading).toNat - 1) ++ digits
  else
    let whole := leading.toNat + 1
    if whole < digits.length then digits.take whole ++ '.' :: digits.drop whole
    else digits ++ zeros (whole - digits.length) ++ ".0".toList

/-- The text of a decimal number, by way of its binary value. -/
def text (negative : Bool) (digits : Nat) (exponent : Int) : String :=
  let body :=
    match Binary64.ofDecimal? digits exponent with
    | some value => layout (.ofBinary64 value)
    | none => "inf".toList
  String.ofList (if negative then '-' :: body else body)

end ParamBundle.Decimal
