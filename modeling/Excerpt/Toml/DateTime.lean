import Excerpt.Value

/-! # Dates and times in TOML

Nothing here computes with a date, so reading one only makes sure that it exists and keeps its
spelling. -/

namespace Excerpt.Toml

/-- Reads exactly so many digits. -/
def readFixed : Nat → Nat → Text → Option (Nat × Text)
  | 0, value, t => some (value, t)
  | count + 1, value, c :: rest =>
    if c.isDigit then readFixed count (10 * value + (c.toNat - '0'.toNat)) rest else none
  | _ + 1, _, [] => none

/-- Reads two digits whose value lies between two bounds. -/
def readBetween (low high : Nat) (t : Text) : Option (Nat × Text) := do
  let (n, rest) ← readFixed 2 0 t
  if low ≤ n ∧ n ≤ high then some (n, rest) else none

def readMark (mark : Char) : Text → Option Text
  | c :: rest => if c = mark then some rest else none
  | [] => none

def isLeapYear (year : Nat) : Bool :=
  year % 4 == 0 && (year % 100 != 0 || year % 400 == 0)

def daysInMonth (year month : Nat) : Nat :=
  if month = 2 then if isLeapYear year then 29 else 28
  else if month = 4 ∨ month = 6 ∨ month = 9 ∨ month = 11 then 30
  else 31

/-- Reads a date and gives the text behind it. -/
def readDate (t : Text) : Option Text := do
  let (year, t) ← readFixed 4 0 t
  let (month, t) ← readBetween 1 12 (← readMark '-' t)
  let (_, t) ← readBetween 1 (daysInMonth year month) (← readMark '-' t)
  return t

/-- Reads a time of day, with a leap second and a fraction of seconds if there are such. -/
def readTime (t : Text) : Option Text := do
  let (_, t) ← readBetween 0 23 t
  let (_, t) ← readBetween 0 59 (← readMark ':' t)
  let (_, t) ← readBetween 0 60 (← readMark ':' t)
  match t with
  | '.' :: c :: rest => return if c.isDigit then rest.dropWhile Char.isDigit else t
  | t => return t

/-- Reads the offset of a time, if there is one. -/
def readOffset (t : Text) : Text :=
  let numeric (t : Text) : Option Text := do
    let (_, t) ← readBetween 0 23 t
    let (_, t) ← readBetween 0 59 (← readMark ':' t)
    return t
  match t with
  | 'Z' :: rest => rest
  | 'z' :: rest => rest
  | '+' :: rest => (numeric rest).getD t
  | '-' :: rest => (numeric rest).getD t
  | t => t

/-- Reads the time that may follow a date. -/
def readTimeAfterDate (t : Text) : Text :=
  match t with
  | c :: rest =>
    if c = 'T' ∨ c = 't' ∨ c = ' ' then ((readTime rest).map readOffset).getD t else t
  | [] => []

/-- Reads a date, a time or both. The value is a record with the spelling. -/
def readDateTime (t : Text) : Option (Value × Text) := do
  let rest ← ((readDate t).map readTimeAfterDate).or (readTime t)
  let spelling := String.ofList (t.take (t.length - rest.length))
  return (.record [("datetime", .text spelling)], rest)

end Excerpt.Toml
