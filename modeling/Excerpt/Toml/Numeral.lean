import Excerpt.Value

/-! # Numerals in TOML

Underscores may stand between digits. A decimal numeral other than zero does not start with a
zero, and integers have 64 bits with a sign. -/

namespace Excerpt.Toml

/-- Reads a sign, if there is one. -/
def readSign : Text → Bool × Text
  | '+' :: rest => (false, rest)
  | '-' :: rest => (true, rest)
  | t => (false, t)

/-- Reads digits after a first one, with single underscores between them, and puts their values
behind those read so far. -/
def readDigitsAfter (isDigit : Char → Bool) : Text → Text × Text
  | '_' :: c :: rest =>
    if isDigit c then
      let (digits, rest) := readDigitsAfter isDigit rest
      (c :: digits, rest)
    else ([], '_' :: c :: rest)
  | c :: rest =>
    if isDigit c then
      let (digits, rest) := readDigitsAfter isDigit rest
      (c :: digits, rest)
    else ([], c :: rest)
  | [] => ([], [])

/-- Reads one digit or more. -/
def readDigits (isDigit : Char → Bool) : Text → Option (Text × Text)
  | c :: rest =>
    if isDigit c then
      let (digits, rest) := readDigitsAfter isDigit rest
      some (c :: digits, rest)
    else none
  | [] => none

/-- Reads the digits of a decimal numeral, which is a zero alone or starts with another digit. -/
def readDecimalDigits : Text → Option (Text × Text)
  | '0' :: rest => some (['0'], rest)
  | t => readDigits Char.isDigit t

def digitValue (c : Char) : Nat :=
  if c.isDigit then c.toNat - '0'.toNat
  else if 'a' ≤ c then c.toNat - 'a'.toNat + 10
  else c.toNat - 'A'.toNat + 10

def digitsValue (base : Nat) (digits : Text) : Nat :=
  digits.foldl (fun n c => base * n + digitValue c) 0

/-- An integer, if it fits. -/
def integer? (z : Int) : Option Value :=
  if -Int.pow 2 63 ≤ z ∧ z < Int.pow 2 63 then some (.number (.integer z)) else none

def isHexDigit (c : Char) : Bool :=
  c.isDigit || ('a' ≤ c && c ≤ 'f') || ('A' ≤ c && c ≤ 'F')

/-- Reads an integer in base 16, 8 or 2 behind a mark, or in base 10 with a sign. -/
def readInteger (t : Text) : Option (Value × Text) := do
  let based (base : Nat) (isDigit : Char → Bool) (t : Text) : Option (Value × Text) := do
    let (digits, rest) ← readDigits isDigit t
    return (← integer? (digitsValue base digits), rest)
  match t with
  | '0' :: 'x' :: rest => based 16 isHexDigit rest
  | '0' :: 'o' :: rest => based 8 (fun c => '0' ≤ c && c ≤ '7') rest
  | '0' :: 'b' :: rest => based 2 (fun c => c == '0' || c == '1') rest
  | _ =>
    let (negative, t) := readSign t
    let (digits, rest) ← readDecimalDigits t
    let n : Int := digitsValue 10 digits
    return (← integer? (if negative then -n else n), rest)

/-- The number nearest to `± n · 10 ^ exponent`, where `n` has so many digits. -/
def realOf (negative : Bool) (n : Nat) (digits : Nat) (exponent : Int) : Binary64 :=
  if n = 0 then .zero negative
  else if 400 < exponent + digits then .infinite negative
  else if exponent + digits < -400 then .zero negative
  else
    let (num, den) := Binary64.scaleFraction 10 n 1 (-exponent)
    .ofFraction negative num den

/-- Reads the exponent of a number, if there is one. -/
def readExponent (t : Text) : Option (Int × Text) := do
  let (negative, t) := readSign t
  let (digits, rest) ← readDigits Char.isDigit t
  let n : Int := digitsValue 10 digits
  return (if negative then -n else n, rest)

/-- Reads the fraction and the exponent of a number, one of which there has to be. -/
def readFractionAndExponent (t : Text) : Option (Text × Int × Text) := do
  match t with
  | 'e' :: rest =>
    let (exponent, rest) ← readExponent rest
    return ([], exponent, rest)
  | 'E' :: rest =>
    let (exponent, rest) ← readExponent rest
    return ([], exponent, rest)
  | '.' :: rest =>
    let (fraction, rest) ← readDigits Char.isDigit rest
    match rest with
    | 'e' :: rest =>
      let (exponent, rest) ← readExponent rest
      return (fraction, exponent, rest)
    | 'E' :: rest =>
      let (exponent, rest) ← readExponent rest
      return (fraction, exponent, rest)
    | rest => return (fraction, 0, rest)
  | _ => none

/-- Reads a number with a fraction or an exponent, or one of the names. A number that is too large
is none. -/
def readReal (t : Text) : Option (Value × Text) := do
  let (negative, t) := readSign t
  match t with
  | 'i' :: 'n' :: 'f' :: rest => return (.number (.real (.infinite negative)), rest)
  | 'n' :: 'a' :: 'n' :: rest => return (.number (.real .nan), rest)
  | _ =>
    let (whole, rest) ← readDecimalDigits t
    let (fraction, exponent, rest) ← readFractionAndExponent rest
    let digits := whole ++ fraction
    let x := realOf negative (digitsValue 10 digits) digits.length (exponent - fraction.length)
    if x = .infinite false then none else return (.number (.real x), rest)

end Excerpt.Toml
