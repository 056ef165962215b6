import Excerpt.Number.Binary64

/-! # Shortest decimals

The shortest decimal of a double precision number is the one with the fewest digits that rounds
back to it; of two such decimals the nearer one, and the even one when both are as near. -/

namespace Excerpt

/-- The number `digits · 10 ^ exponent`. -/
structure Decimal where
  digits : Nat
  exponent : Int
  deriving DecidableEq, Repr

namespace Decimal

/-- Moves the zeros at the end of the digits into the exponent. -/
def trimZeros : Nat → Decimal → Decimal
  | 0, d => d
  | fuel + 1, d =>
    if d.digits % 10 = 0 then trimZeros fuel ⟨d.digits / 10, d.exponent + 1⟩ else d

end Decimal

namespace Binary64

/-- The numbers that round to `mantissa · 2 ^ exponent` lie between `low` and `high` quarters of
its last place. -/
structure Neighbourhood where
  low : Nat
  middle : Nat
  high : Nat
  closed : Bool

/-- Below a power of two the next number is only half as far away. An even mantissa takes the
ties at both ends. -/
def neighbourhood (mantissa : Nat) (exponent : Int) : Neighbourhood where
  low :=
    if mantissa = Nat.pow 2 52 ∧ minExponent < exponent then 4 * mantissa - 1 else 4 * mantissa - 2
  middle := 4 * mantissa
  high := 4 * mantissa + 2
  closed := mantissa % 2 = 0

/-- Whether `10 ^ power ≤ num / den`. -/
def powerOfTenLe (num den : Nat) (power : Int) : Bool :=
  let (num, den) := scaleFraction 10 num den power
  den ≤ num

/-- The greatest power of ten that is at most `num / den`, looked for upwards from `power`. -/
def leadingPower (num den : Nat) : Nat → Int → Int
  | 0, power => power
  | fuel + 1, power =>
    if powerOfTenLe num den (power + 1) then leadingPower num den fuel (power + 1) else power

/-- The decimal on the grid of multiples of `10 ^ power` that stands for the number, if one of
the two nearest to it rounds back. -/
def decimalAt (around : Neighbourhood) (exponent power : Int) : Option Decimal :=
  let (num, den) := scaleFraction 2 1 1 (2 - exponent)
  let (num, den) := scaleFraction 10 num den power
  let below := around.middle * num / den
  let twice := 2 * (around.middle * num % den)
  let within (candidate : Nat) : Bool :=
    if around.closed then
      around.low * num ≤ candidate * den && candidate * den ≤ around.high * num
    else around.low * num < candidate * den && candidate * den < around.high * num
  let nearest :=
    if twice < den then below else if den < twice then below + 1 else below + below % 2
  let other := if nearest = below then below + 1 else below
  if within nearest then some ⟨nearest, power⟩
  else if within other then some ⟨other, power⟩
  else none

/-- Tries grids of more and more digits. Seventeen digits always suffice. -/
def shortestFrom (around : Neighbourhood) (exponent leading : Int) : Nat → Nat → Decimal
  | 0, _ => ⟨0, 0⟩
  | fuel + 1, digits =>
    match decimalAt around exponent (leading - digits) with
    | some d => d
    | none => shortestFrom around exponent leading fuel (digits + 1)

/-- The shortest decimal of the positive number `mantissa · 2 ^ exponent`. -/
def shortest (mantissa : Nat) (exponent : Int) : Decimal :=
  let (den, num) := scaleFraction 2 1 mantissa exponent
  let guess := ((Nat.log2 num : Int) - Nat.log2 den - 1) * 30103 / 100000 - 1
  let leading := leadingPower num den 4 guess
  (shortestFrom (neighbourhood mantissa exponent) exponent leading 17 0).trimZeros 17

end Binary64

end Excerpt
