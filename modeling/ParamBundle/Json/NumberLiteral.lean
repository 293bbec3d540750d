import ParamBundle.Json.Reading

/-! Number literals. The longest number is taken, so a point or an exponent mark with no
digit after it ends the number in front of it. -/

namespace ParamBundle.Json

def isDigit (c : Char) : Bool := '0' ≤ c && c ≤ '9'

def digitsValue (digits : List Char) : Nat :=
  digits.foldl (fun value digit => value * 10 + (digit.toNat - 48)) 0

/-- An integer has no superfluous zero in front: after a zero it ends. -/
def integerDigits? : List Char → Option (List Char × List Char)
  | '0' :: rest => some (['0'], rest)
  | c :: rest => if isDigit c then some ((c :: rest).span isDigit) else none
  | [] => none

/-- A point counts only with a digit after it. -/
def fraction? : List Char → Option (List Char × List Char)
  | '.' :: rest =>
    match rest.span isDigit with
    | ([], _) => none
    | read => some read
  | _ => none

def signedDigits? (text : List Char) : Option (Int × List Char) :=
  let (negative, text) := match text with
    | '-' :: rest => (true, rest)
    | '+' :: rest => (false, rest)
    | _ => (false, text)
  match text.span isDigit with
  | ([], _) => none
  | (digits, rest) =>
    let value := (digitsValue digits : Int)
    some (if negative then -value else value, rest)

/-- An exponent mark counts only with digits after it. -/
def exponent? : List Char → Option (Int × List Char)
  | 'e' :: rest | 'E' :: rest => signedDigits? rest
  | _ => none

/-- Integers with more digits than this are refused. -/
def integerDigitLimit : Nat := 4300

/-- The longest number at the start of the text, whose sign has been read already. -/
def unsignedNumber (negative : Bool) (start text : List Char) : Reading Json :=
  match integerDigits? text with
  | none => .error (.flawed .valueExpected start)
  | some (whole, rest) =>
    let fraction := fraction? rest
    let rest := (fraction.map (·.2)).getD rest
    let exponent := exponent? rest
    let rest := (exponent.map (·.2)).getD rest
    match fraction, exponent with
    | none, none =>
      if integerDigitLimit < whole.length then .error (.oversized whole.length)
      else
        let value := (digitsValue whole : Int)
        .ok (.number (.integer (if negative then -value else value)), rest)
    | _, _ =>
      let decimals := (fraction.map (·.1)).getD []
      let shift := (exponent.map (·.1)).getD 0
      let digits := digitsValue (whole ++ decimals)
      .ok (.number (.decimal negative digits (shift - decimals.length)), rest)

end ParamBundle.Json
