/-!
Finite binary floating-point numbers of 64 bits, as exact dyadic fractions. Rounding is the one
operation that all others go through: the quotient of two natural numbers becomes the nearest
representable number, a tie going to the even significand.
-/
namespace SemanticLayer

/-- The finite number `± significand · 2 ^ exponent`. Values built by `Binary64.ofRatio?` have a
significand below `2 ^ 53`, an exponent of at least `-1074`, and either a significand of at least
`2 ^ 52` or the exponent `-1074`. -/
structure Binary64 where
  /-- Whether the sign is minus; zero has a sign too. -/
  negative : Bool
  /-- The magnitude in units of the last place. -/
  significand : Nat
  /-- The power of two of the unit in the last place. -/
  exponent : Int
  deriving DecidableEq, Repr, Inhabited

namespace Binary64

/-- Zero with the given sign. -/
def zero (negative : Bool) : Binary64 := ⟨negative, 0, -1074⟩

/-- Whether the number is a zero of either sign. -/
def isZero (x : Binary64) : Bool := x.significand == 0

/-- The same magnitude with the given sign. -/
def withSign (negative : Bool) (x : Binary64) : Binary64 := { x with negative }

/-- The quotient rounded to the nearest natural number, a tie going to the even one. -/
def roundQuotient (num den : Nat) : Nat :=
  let quotient := num / den
  let twice := 2 * (num % den)
  if twice < den then quotient
  else if twice > den then quotient + 1
  else if quotient % 2 = 0 then quotient else quotient + 1

/-- `num / (den · 2 ^ exponent)` as a quotient of natural numbers. -/
def scaled (num den : Nat) (exponent : Int) : Nat × Nat :=
  if exponent < 0 then (num * Nat.pow 2 exponent.natAbs, den)
  else (num, den * Nat.pow 2 exponent.natAbs)

/-- The exponent at which the quotient has a significand of 53 bits, but at least `-1074`. -/
def unitExponent (num den : Nat) : Int :=
  let guess : Int := (num.log2 : Int) - (den.log2 : Int) - 53
  let (n, d) := scaled num den guess
  let exact := if n / d < Nat.pow 2 53 then guess else guess + 1
  max exact (-1074)

/-- The representable number nearest to `num / den`, or nothing if that is beyond the largest. -/
def ofRatio? (negative : Bool) (num den : Nat) : Option Binary64 :=
  if num = 0 then some (zero negative)
  else
    let exponent := unitExponent num den
    let (n, d) := scaled num den exponent
    let rounded := roundQuotient n d
    let (significand, exponent) :=
      if rounded = Nat.pow 2 53 then (Nat.pow 2 52, exponent + 1) else (rounded, exponent)
    if 971 < exponent then none else some ⟨negative, significand, exponent⟩

/-- The number nearest to a natural number, or nothing if that is beyond the largest. -/
def ofNat? (n : Nat) : Option Binary64 := ofRatio? false n 1

/-- The product rounded to the nearest number, or nothing if that is beyond the largest. -/
def mul? (x y : Binary64) : Option Binary64 :=
  let exponent := x.exponent + y.exponent
  let product := x.significand * y.significand
  let negative := x.negative != y.negative
  if exponent < 0 then ofRatio? negative product (Nat.pow 2 exponent.natAbs)
  else ofRatio? negative (product * Nat.pow 2 exponent.natAbs) 1

/-- The quotient by a number other than zero rounded to the nearest number, or nothing if that is
beyond the largest. -/
def div? (x y : Binary64) : Option Binary64 :=
  let exponent := x.exponent - y.exponent
  let negative := x.negative != y.negative
  if exponent < 0 then ofRatio? negative x.significand (y.significand * Nat.pow 2 exponent.natAbs)
  else ofRatio? negative (x.significand * Nat.pow 2 exponent.natAbs) y.significand

/-- The number nearest to `digits · 10 ^ exponent`, or nothing if that is beyond the largest. The
two guards answer at once where the power of ten alone decides. -/
def ofDecimal? (negative : Bool) (digits : Nat) (exponent : Int) : Option Binary64 :=
  if digits = 0 then some (zero negative)
  else
    let leading : Int := (Nat.log2 digits : Int) * 3 / 10 + exponent
    if 310 < leading then none
    else if leading < -700 then
      if exponent.natAbs < 100000 then ofRatio? negative digits (Nat.pow 10 exponent.natAbs)
      else some (zero negative)
    else if exponent < 0 then ofRatio? negative digits (Nat.pow 10 exponent.natAbs)
    else ofRatio? negative (digits * Nat.pow 10 exponent.natAbs) 1

end Binary64
end SemanticLayer
