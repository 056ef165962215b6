/-! # Double precision numbers

A finite number is `± mantissa · 2 ^ exponent`. Every operation computes the exact quotient of
two naturals first and rounds it once, to the nearest number and to the even one on a tie. -/

namespace Excerpt

/-- The numbers of the binary64 format. A finite one has `mantissa < 2 ^ 53` and
`-1074 ≤ exponent`, and its mantissa is below `2 ^ 52` only at the least exponent. -/
inductive Binary64 where
  | finite (negative : Bool) (mantissa : Nat) (exponent : Int)
  | infinite (negative : Bool)
  | nan
  deriving DecidableEq, Repr

namespace Binary64

/-- The quotient of two naturals, rounded to the nearest natural and to the even one on a tie. -/
def roundQuotient (num den : Nat) : Nat :=
  let quotient := num / den
  let twice := 2 * (num % den)
  if twice < den then quotient
  else if den < twice then quotient + 1
  else quotient + quotient % 2

/-- The fraction `num / den` divided by `base ^ power`, as a fraction. -/
def scaleFraction (base : Nat) (num den : Nat) : Int → Nat × Nat
  | .ofNat power => (num, den * base.pow power)
  | .negSucc power => (num * base.pow (power + 1), den)

/-- The least exponent of a finite number. -/
def minExponent : Int := -1074

/-- The greatest exponent of a finite number. -/
def maxExponent : Int := 971

def zero (negative : Bool) : Binary64 :=
  .finite negative 0 minExponent

/-- Rounds `num / den` on the grid of multiples of `2 ^ exponent`. -/
def roundAt (negative : Bool) (num den : Nat) (exponent : Int) : Binary64 :=
  let (num, den) := scaleFraction 2 num den exponent
  let mantissa := roundQuotient num den
  let (mantissa, exponent) :=
    if Nat.pow 2 53 ≤ mantissa then (mantissa / 2, exponent + 1) else (mantissa, exponent)
  if maxExponent < exponent then .infinite negative else .finite negative mantissa exponent

/-- The number nearest to `± num / den`, for a positive denominator. -/
def ofFraction (negative : Bool) (num den : Nat) : Binary64 :=
  if num = 0 then zero negative
  else
    let exponent := max minExponent ((Nat.log2 num : Int) - Nat.log2 den - 53)
    let (scaledNum, scaledDen) := scaleFraction 2 num den exponent
    if Nat.pow 2 53 ≤ scaledNum / scaledDen then roundAt negative num den (exponent + 1)
    else roundAt negative num den exponent

/-- The number nearest to a natural. -/
def ofNat (n : Nat) : Binary64 :=
  ofFraction false n 1

/-- The number nearest to `10 ^ power`. -/
def powerOfTen (power : Nat) : Binary64 :=
  ofNat (Nat.pow 10 power)

def isZero : Binary64 → Bool
  | .finite _ mantissa _ => mantissa == 0
  | _ => false

def isInfinite : Binary64 → Bool
  | .infinite _ => true
  | _ => false

def neg : Binary64 → Binary64
  | .finite negative mantissa exponent => .finite (!negative) mantissa exponent
  | .infinite negative => .infinite (!negative)
  | .nan => .nan

/-- The rounded product. -/
def mul : Binary64 → Binary64 → Binary64
  | .finite n m e, .finite n' m' e' =>
    let (den, num) := scaleFraction 2 1 (m * m') (e + e')
    ofFraction (n != n') num den
  | .infinite n, .finite n' m' _ => if m' = 0 then .nan else .infinite (n != n')
  | .finite n m _, .infinite n' => if m = 0 then .nan else .infinite (n != n')
  | .infinite n, .infinite n' => .infinite (n != n')
  | _, _ => .nan

/-- The rounded quotient. -/
def div : Binary64 → Binary64 → Binary64
  | .finite n m e, .finite n' m' e' =>
    if m' = 0 then if m = 0 then .nan else .infinite (n != n')
    else
      let (den, num) := scaleFraction 2 m' m (e - e')
      ofFraction (n != n') num den
  | .infinite n, .finite n' _ _ => .infinite (n != n')
  | .finite n _ _, .infinite n' => zero (n != n')
  | _, _ => .nan

end Binary64

end Excerpt
