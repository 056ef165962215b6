import Excerpt.Number.Shortest
import Excerpt.Value

/-! # Numerals in JSON

A numeral without fraction and exponent is an integer if it fits 64 bits. Any other numeral is
real. Its digits are collected in a 64-bit word as far as they fit, and the word is scaled by a
power of ten, which rounds once more. -/

namespace Excerpt.Json

def digitValue (c : Char) : Nat :=
  c.toNat - '0'.toNat

/-- Whether another digit still fits the word. -/
def digitFits (word : Nat) (c : Char) : Bool :=
  10 * word + digitValue c ≤ maxWord

/-- The digits gathered in a word, in front of the first one that does not fit. -/
def gatherDigits (word : Nat) : Text → Nat × Text
  | [] => (word, [])
  | c :: rest =>
    if c.isDigit && digitFits word c then gatherDigits (10 * word + digitValue c) rest
    else (word, c :: rest)

/-- Splits the digits off the front of a text. -/
def spanDigits (t : Text) : Text × Text :=
  (t.takeWhile Char.isDigit, t.dropWhile Char.isDigit)

/-- Greatest power of ten that the scale has. -/
def maxScale : Nat := 308

/-- Scales a number by a power of ten. An overflow has no value; a number too small becomes zero. -/
def scale : Nat → Binary64 → Int → Option Binary64
  | 0, _, _ => some (.zero false)
  | fuel + 1, x, exponent =>
    if exponent.natAbs ≤ maxScale then
      if 0 ≤ exponent then
        let product := x.mul (.powerOfTen exponent.natAbs)
        if product.isInfinite then none else some product
      else some (x.div (.powerOfTen exponent.natAbs))
    else if x.isZero then some x
    else if 0 ≤ exponent then none
    else scale fuel (x.div (.powerOfTen maxScale)) (exponent + maxScale)

/-- The real number `± word · 10 ^ exponent`. Three steps of the scale lead from any word to
zero. -/
def realOf (negative : Bool) (word : Nat) (exponent : Int) : Option Number := do
  let x ← scale 4 (.ofNat word) exponent
  return .real (if negative then x.neg else x)

def realZero (negative : Bool) : Number :=
  .real (.zero negative)

/-- Greatest exponent that can be written. -/
def maxWrittenExponent : Nat := Nat.pow 2 31 - 1

/-- An exponent stays between the bounds of a 32-bit word. -/
def clampExponent (exponent : Int) : Int :=
  max (-Int.pow 2 31) (min exponent (Int.pow 2 31 - 1))

/-- Reads what follows the mark of an exponent. -/
def readExponent (negative : Bool) (word : Nat) (exponent : Int) (t : Text) :
    Option (Number × Text) :=
  let (down, t) : Bool × Text :=
    match t with
    | '+' :: rest => (false, rest)
    | '-' :: rest => (true, rest)
    | _ => (false, t)
  match spanDigits t with
  | ([], _) => none
  | (digits, rest) =>
    let written := digits.foldl (fun n c => 10 * n + digitValue c) 0
    if maxWrittenExponent < written then
      if word = 0 || down then some (realZero negative, rest) else none
    else do
      let total := clampExponent (if down then exponent - written else exponent + written)
      return (← realOf negative word total, rest)

/-- Reads an exponent if there is one. -/
def readScaled (negative : Bool) (word : Nat) (exponent : Int) (t : Text) :
    Option (Number × Text) :=
  match t with
  | 'e' :: rest => readExponent negative word exponent rest
  | 'E' :: rest => readExponent negative word exponent rest
  | _ => do return (← realOf negative word exponent, t)

/-- Reads what follows the decimal point. Digits that do not fit the word are skipped. -/
def readFraction (negative : Bool) (word : Nat) (exponent : Int) (t : Text) :
    Option (Number × Text) :=
  match spanDigits t with
  | ([], _) => none
  | (_, rest) =>
    let (gathered, unread) := gatherDigits word t
    let used := t.length - unread.length
    readScaled negative gathered (exponent - used) rest

/-- An integer of 64 bits. The negative zero and what does not fit are real. -/
def integerOf (negative : Bool) (word : Nat) : Number :=
  if negative then
    if word = 0 then realZero true
    else if word ≤ Nat.pow 2 63 then .integer (-word)
    else .real (Binary64.ofNat word).neg
  else .integer word

/-- Reads a numeral whose sign has been read. A zero has no digit after it. -/
def readUnsigned (negative : Bool) (t : Text) : Option (Number × Text) :=
  match spanDigits t with
  | ([], _) => none
  | ('0' :: _ :: _, _) => none
  | (digits, rest) =>
    let (word, skipped) := gatherDigits 0 digits
    match rest with
    | '.' :: rest => readFraction negative word skipped.length rest
    | 'e' :: rest => readExponent negative word skipped.length rest
    | 'E' :: rest => readExponent negative word skipped.length rest
    | _ =>
      if skipped.isEmpty then some (integerOf negative word, rest)
      else do return (← realOf negative word skipped.length, rest)

/-- Reads a numeral. -/
def readNumber : Text → Option (Number × Text)
  | '-' :: rest => readUnsigned true rest
  | t => readUnsigned false t

/-! ## Writing -/

/-- Where the point stands in the digits of a real number: plain notation runs from five zeros
after the point up to sixteen digits in front of it. -/
def layoutDecimal (d : Decimal) : Text :=
  let digits := Nat.toDigits 10 d.digits
  let point : Int := digits.length + d.exponent
  if 0 ≤ d.exponent ∧ point ≤ 16 then
    digits ++ List.replicate d.exponent.toNat '0' ++ ['.', '0']
  else if 0 < point ∧ point ≤ 16 then
    digits.take point.toNat ++ '.' :: digits.drop point.toNat
  else if -5 < point ∧ point ≤ 0 then
    '0' :: '.' :: List.replicate (-point).toNat '0' ++ digits
  else
    let fraction := digits.drop 1
    digits.take 1 ++ (if fraction.isEmpty then [] else '.' :: fraction)
      ++ 'e' :: (toString (point - 1)).toList

/-- The numeral of a number. What is not finite has none. -/
def numeral : Number → Text
  | .integer (.ofNat n) => Nat.toDigits 10 n
  | .integer (.negSucc n) => '-' :: Nat.toDigits 10 (n + 1)
  | .real (.finite negative mantissa exponent) =>
    let magnitude :=
      if mantissa = 0 then ['0', '.', '0']
      else layoutDecimal (Binary64.shortest mantissa exponent)
    if negative then '-' :: magnitude else magnitude
  | .real _ => ['n', 'u', 'l', 'l']

end Excerpt.Json
