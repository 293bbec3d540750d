/-! Binary floating point with 53 bits. A finite value is `significand * 2 ^ exponent`;
the significand has its full 53 bits unless the exponent is the least one. -/

namespace ParamBundle.Decimal

structure Binary64 where
  significand : Nat
  exponent : Int
deriving DecidableEq

def twoTo (exponent : Nat) : Nat := Nat.pow 2 exponent

def tenTo (exponent : Nat) : Nat := Nat.pow 10 exponent

namespace Binary64

def leastExponent : Int := -1074

def greatestExponent : Int := 971

/-- Multiplies by a power of two the side of a fraction that keeps both sides whole. -/
def scaled (numerator denominator : Nat) (exponent : Int) : Nat × Nat :=
  (numerator * twoTo exponent.toNat, denominator * twoTo (-exponent).toNat)

/-- The nearest whole number; of two equally near ones the even one. -/
def roundDiv (numerator denominator : Nat) : Nat :=
  let quotient := numerator / denominator
  let twice := 2 * (numerator % denominator)
  if denominator < twice ∨ (twice = denominator ∧ quotient % 2 = 1) then quotient + 1 else quotient

/-- The nearest value of a positive fraction, or none when it lies past the greatest. -/
def nearest? (numerator denominator : Nat) : Option Binary64 :=
  let estimate : Int := (numerator.log2 : Int) - denominator.log2 - 52
  let (above, below) := scaled numerator denominator (-estimate)
  let fitting := if above < twoTo 52 * below then estimate - 1 else estimate
  let exponent := max fitting leastExponent
  let (above, below) := scaled numerator denominator (-exponent)
  let significand := roundDiv above below
  let value : Binary64 :=
    if significand = twoTo 53 then ⟨twoTo 52, exponent + 1⟩ else ⟨significand, exponent⟩
  if greatestExponent < value.exponent then none else some value

/-- The value of `digits * 10 ^ exponent`. Far outside the range the answer needs no
arithmetic on huge powers. -/
def ofDecimal? (digits : Nat) (exponent : Int) : Option Binary64 :=
  if digits = 0 ∨ exponent + digits.log2 / 3 < -400 then some ⟨0, leastExponent⟩
  else if 400 < exponent then none
  else nearest? (digits * tenTo exponent.toNat) (tenTo (-exponent).toNat)

end Binary64
end ParamBundle.Decimal
