import Excerpt.Number.Binary64
import Excerpt.Text.Basic

/-! # Document values

The values that configuration files and diagnostics are made of, whatever format they were
written in. -/

namespace Excerpt

/-- A number is an integer when it was written as one and fits 64 bits, signed or unsigned. -/
inductive Number where
  | integer (value : Int)
  | real (value : Binary64)
  deriving DecidableEq, Repr

/-- The members of a record keep their order. A reader sorts them by key. -/
inductive Value where
  | null
  | bool (b : Bool)
  | number (n : Number)
  | text (s : String)
  | list (items : List Value)
  | record (members : List (String × Value))
  deriving BEq, Repr

/-- The greatest line, column or offset. -/
def maxWord : Nat := Nat.pow 2 64 - 1

namespace Value

def ofNat (n : Nat) : Value :=
  .number (.integer n)

/-- The naturals of 64 bits among the values. -/
def toNat? : Value → Option Nat
  | .number (.integer (.ofNat n)) => if n ≤ maxWord then some n else none
  | _ => none

def toText? : Value → Option String
  | .text s => some s
  | _ => none

def toList? : Value → Option (List Value)
  | .list items => some items
  | _ => none

def toRecord? : Value → Option (List (String × Value))
  | .record members => some members
  | _ => none

/-- A list of texts. -/
def toTexts? (v : Value) : Option (List String) := do
  (← v.toList?).mapM toText?

def ofTexts (texts : List String) : Value :=
  .list (texts.map .text)

/-- Puts a member where its key belongs. A member of the same key is replaced. -/
def insertMember (key : String) (v : Value) : List (String × Value) → List (String × Value)
  | [] => [(key, v)]
  | (other, old) :: rest =>
    if key < other then (key, v) :: (other, old) :: rest
    else if other < key then (other, old) :: insertMember key v rest
    else (key, v) :: rest

/-- Members sorted by key. Of members with one key the last one stays. -/
def sortMembers (members : List (String × Value)) : List (String × Value) :=
  members.foldl (fun sorted member => insertMember member.1 member.2 sorted) []

/-! ## Fields of records -/

/-- A member that may be missing or null. -/
def optional? {α : Type} (decode : Value → Option α) (key : String)
    (members : List (String × Value)) : Option (Option α) :=
  match members.lookup key with
  | none => some none
  | some .null => some none
  | some v => (decode v).map some

/-- A member that may be missing, but not null. -/
def withDefault? {α : Type} (decode : Value → Option α) (default : α) (key : String)
    (members : List (String × Value)) : Option α :=
  match members.lookup key with
  | none => some default
  | some v => decode v

/-- The members whose keys are not reserved. -/
def extraMembers (reserved : List String) (members : List (String × Value)) :
    List (String × Value) :=
  members.filter fun member => !reserved.contains member.1

/-- A member that is left out when it has no value. -/
def optionalMember {α : Type} (encode : α → Value) (key : String) (v : Option α) :
    List (String × Value) :=
  (v.map fun x => (key, encode x)).toList

/-- A member that is left out when it is empty. -/
def textMember (key : String) (s : String) : List (String × Value) :=
  if s.isEmpty then [] else [(key, .text s)]

end Value

end Excerpt
