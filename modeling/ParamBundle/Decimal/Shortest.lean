import ParamBundle.Decimal.Binary64

/-! The shortest decimal that reads back as a given binary value. Every decimal in the
interval that rounds to the value reads back. For one digit, two digits and so on the
two neighbours of the value on that decimal grid are tried: the first grid with a
neighbour in the interval gives the fewest digits, the nearer neighbour the digits. -/

namespace ParamBundle.Decimal

/-- The decimal `digits * 10 ^ exponent`. -/
structure Shortest where
  digits : Nat
  exponent : Int
deriving DecidableEq

namespace Shortest

/-- The value with the ends of its interval, all multiplied by four and over one
denominator. The ends belong to it when the significand is even. -/
structure Interval where
  low : Nat
  value : Nat
  high : Nat
  denominator : Nat
  closed : Bool

def interval (value : Binary64) : Interval :=
  let m := value.significand
  let narrow := m = twoTo 52 ∧ Binary64.leastExponent < value.exponent
  let power := twoTo value.exponent.toNat
  { low := (if narrow then 4 * m - 1 else 4 * m - 2) * power
    value := 4 * m * power
    high := (4 * m + 2) * power
    denominator := 4 * twoTo (-value.exponent).toNat
    closed := m % 2 = 0 }

/-- Compares with the grid point `digits * 10 ^ exponent`. -/
def Interval.contains (interval : Interval) (point : Shortest) : Bool :=
  let scale := tenTo (-point.exponent).toNat
  let position := point.digits * tenTo point.exponent.toNat * interval.denominator
  let low := interval.low * scale
  let high := interval.high * scale
  if interval.closed then low ≤ position ∧ position ≤ high else low < position ∧ position < high

/-- The neighbour on the grid of one power of ten, if one reads back. -/
def Interval.onGrid? (interval : Interval) (exponent : Int) : Option Shortest :=
  let above := interval.value * tenTo (-exponent).toNat
  let below := interval.denominator * tenTo exponent.toNat
  let floor := above / below
  let twice := 2 * (above % below)
  let upFirst := below < twice ∨ (twice = below ∧ floor % 2 = 1)
  let (first, second) := if upFirst then (floor + 1, floor) else (floor, floor + 1)
  [⟨first, exponent⟩, ⟨second, exponent⟩].find? fun (point : Shortest) =>
    0 < point.digits && interval.contains point

/-- Grids from coarse to fine, for at most 18 digits. -/
def search (interval : Interval) (exponent : Int) : Nat → Option Shortest
  | 0 => none
  | steps + 1 => interval.onGrid? exponent <|> search interval (exponent - 1) steps

/-- A power of ten not below the value. -/
def startExponent (value : Binary64) : Int :=
  let bits := (value.significand.log2 : Int) + value.exponent
  Int.fdiv (bits * 30103) 100000 + 1

def trimZeros (digits : Nat) (exponent : Int) : Nat → Shortest
  | 0 => ⟨digits, exponent⟩
  | steps + 1 =>
    if digits ≠ 0 ∧ digits % 10 = 0 then trimZeros (digits / 10) (exponent + 1) steps
    else ⟨digits, exponent⟩

def ofBinary64 (value : Binary64) : Shortest :=
  if value.significand = 0 then ⟨0, 0⟩
  else
    match search (interval value) (startExponent value) 20 with
    | some found => trimZeros found.digits found.exponent 20
    | none => ⟨0, 0⟩

end Shortest
end ParamBundle.Decimal
