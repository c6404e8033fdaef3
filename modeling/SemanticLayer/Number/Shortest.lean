import SemanticLayer.Number.Binary64
/-!
The shortest decimal text of a finite binary number: the fewest significant digits that read back
as the same number, and of those the nearest to it. A number is written with a point and at least
one decimal when its decimal exponent is from `-5` to `15`, and with a signed exponent otherwise.
-/
namespace SemanticLayer.Binary64

/-- A decimal `digits · 10 ^ exponent`. -/
structure Decimal where
  /-- The significant digits, read as one natural number. -/
  digits : Nat
  /-- The power of ten of the last digit. -/
  exponent : Int
  deriving DecidableEq, Repr, Inhabited

/-- The magnitude of a number as a quotient of natural numbers. -/
def magnitude (x : Binary64) : Nat × Nat :=
  if x.exponent < 0 then (x.significand, Nat.pow 2 x.exponent.natAbs)
  else (x.significand * Nat.pow 2 x.exponent.natAbs, 1)

/-- The number of decimal digits of a natural number; zero has one. -/
def digitCount (n : Nat) : Nat := (Nat.toDigits 10 n).length

/-- The magnitude in units of `10 ^ exponent`, as a quotient of natural numbers. -/
def inUnits (ratio : Nat × Nat) (exponent : Int) : Nat × Nat :=
  if exponent < 0 then (ratio.1 * Nat.pow 10 exponent.natAbs, ratio.2)
  else (ratio.1, ratio.2 * Nat.pow 10 exponent.natAbs)

/-- The exponent `e` with `10 ^ e ≤ num / den < 10 ^ (e + 1)`, for a quotient other than zero. -/
def decimalExponent (ratio : Nat × Nat) : Int :=
  let guess : Int := (digitCount ratio.1 : Int) - (digitCount ratio.2 : Int)
  let (n, d) := inUnits ratio guess
  if n < d then guess - 1 else guess

/-- Whether a decimal reads back as the magnitude of `x`. -/
def readsBack (x : Binary64) (d : Decimal) : Bool :=
  ofDecimal? false d.digits d.exponent == some (x.withSign false)

/-- The decimals of at most `count` significant digits next to the magnitude, the nearest first;
on a tie the even one comes first. -/
def neighbours (x : Binary64) (count : Nat) : List Decimal :=
  let ratio := magnitude x
  let exponent := decimalExponent ratio - (count : Int) + 1
  let (n, d) := inUnits ratio exponent
  let below := n / d
  let twice := 2 * (n % d)
  let lower : Decimal := ⟨below, exponent⟩
  let upper : Decimal := ⟨below + 1, exponent⟩
  if twice < d || (twice = d && below % 2 = 0) then [lower, upper] else [upper, lower]

/-- The fewest digits that read back, trying `count` digits and then more, at most `fuel` times.
Seventeen digits always read back. -/
def shortestFrom (x : Binary64) : Nat → Nat → Decimal
  | 0, count => (neighbours x count).headD ⟨0, 0⟩
  | fuel + 1, count =>
    match (neighbours x count).find? (readsBack x) with
    | some d => d
    | none => shortestFrom x fuel (count + 1)

/-- Takes trailing zeros of the digits into the exponent. -/
def Decimal.stripZeros (fuel : Nat) (d : Decimal) : Decimal :=
  match fuel with
  | 0 => d
  | fuel + 1 =>
    if d.digits ≠ 0 ∧ d.digits % 10 = 0 then
      Decimal.stripZeros fuel ⟨d.digits / 10, d.exponent + 1⟩
    else d

/-- The shortest decimal that reads back as the magnitude of `x`. -/
def shortest (x : Binary64) : Decimal :=
  if x.isZero then ⟨0, 0⟩ else (shortestFrom x 17 1).stripZeros 20

/-- The digits with a point and at least one decimal; `exponent` is that of the first digit. -/
def positionalChars (digits : List Char) (exponent : Int) : List Char :=
  if exponent < 0 then
    ['0', '.'] ++ List.replicate (exponent.natAbs - 1) '0' ++ digits
  else
    let whole := exponent.natAbs + 1
    let padded := digits ++ List.replicate (whole - digits.length) '0'
    let rest := padded.drop whole
    padded.take whole ++ ['.'] ++ (if rest.isEmpty then ['0'] else rest)

/-- The text of a number without an exponent. -/
def positional (x : Binary64) : String :=
  let d := shortest x
  let digits := Nat.toDigits 10 d.digits
  let text := positionalChars digits ((digits.length : Int) - 1 + d.exponent)
  (if x.negative then "-" else "") ++ String.ofList text

/-- The text of a number. -/
def render (x : Binary64) : String :=
  let sign := if x.negative then "-" else ""
  let d := shortest x
  let digits := Nat.toDigits 10 d.digits
  let exponent : Int := (digits.length : Int) - 1 + d.exponent
  let text : List Char :=
    if x.isZero then ['0', '.', '0']
    else if -5 ≤ exponent ∧ exponent ≤ 15 then positionalChars digits exponent
    else
      let mantissa := match digits with
        | [c] => [c]
        | c :: rest => c :: '.' :: rest
        | [] => []
      mantissa ++ ['e', if exponent < 0 then '-' else '+'] ++ Nat.toDigits 10 exponent.natAbs
  sign ++ String.ofList text

end SemanticLayer.Binary64
