import Excerpt.Text.Blank
import Excerpt.Text.CaseFold
import Excerpt.Text.DecimalDigit
import Excerpt.Text.WordChar

/-! # Character classes -/

namespace Excerpt.Pattern

/-- A class is built from ranges of code points and named classes by the operations of sets. A
folded class holds every character that differs from one of its members in case only. -/
inductive CharClass where
  | none
  | range (low high : Nat)
  | digit
  | space
  | word
  | complement (c : CharClass)
  | union (a b : CharClass)
  | inter (a b : CharClass)
  | folded (c : CharClass)
  deriving DecidableEq, Repr

namespace CharClass

/-- Membership of a code point. -/
def mem : CharClass → Nat → Bool
  | .none, _ => false
  | .range low high, n => low ≤ n && n ≤ high
  | .digit, n => inRanges n decimalDigitRanges
  | .space, n => inRanges n blankRanges
  | .word, n => inRanges n wordRanges
  | .complement c, n => !c.mem n
  | .union a b, n => a.mem n || b.mem n
  | .inter a b, n => a.mem n && b.mem n
  | .folded c, n => (caseOrbit n).any c.mem

/-- Membership of a character. -/
def accepts (c : CharClass) (char : Char) : Bool :=
  c.mem char.toNat

def single (char : Char) : CharClass :=
  .range char.toNat char.toNat

/-- The union of several ranges. -/
def ofRanges : List CharRange → CharClass
  | [] => .none
  | (low, high) :: rest => .union (.range low high) (ofRanges rest)

def diff (a b : CharClass) : CharClass :=
  .inter a (.complement b)

def symmDiff (a b : CharClass) : CharClass :=
  .union (diff a b) (diff b a)

/-- The characters that differ from a given one in case only. -/
def anyCase (char : Char) : CharClass :=
  ofRanges ((caseOrbit char.toNat).map fun n => (n, n))

def ascii : CharClass :=
  ofRanges [(0x00, 0x7F)]

def asciiDigit : CharClass :=
  ofRanges [(0x30, 0x39)]

def asciiSpace : CharClass :=
  ofRanges [(0x09, 0x0D), (0x20, 0x20)]

def asciiWord : CharClass :=
  ofRanges [(0x30, 0x39), (0x41, 0x5A), (0x5F, 0x5F), (0x61, 0x7A)]

/-- The classes that are written by name between `[:` and `:]`. -/
def ofName? (name : String) : Option CharClass :=
  match name with
  | "alnum" => some (ofRanges [(0x30, 0x39), (0x41, 0x5A), (0x61, 0x7A)])
  | "alpha" => some (ofRanges [(0x41, 0x5A), (0x61, 0x7A)])
  | "ascii" => some ascii
  | "blank" => some (ofRanges [(0x09, 0x09), (0x20, 0x20)])
  | "cntrl" => some (ofRanges [(0x00, 0x1F), (0x7F, 0x7F)])
  | "digit" => some asciiDigit
  | "graph" => some (ofRanges [(0x21, 0x7E)])
  | "lower" => some (ofRanges [(0x61, 0x7A)])
  | "print" => some (ofRanges [(0x20, 0x7E)])
  | "punct" => some (ofRanges [(0x21, 0x2F), (0x3A, 0x40), (0x5B, 0x60), (0x7B, 0x7E)])
  | "space" => some asciiSpace
  | "upper" => some (ofRanges [(0x41, 0x5A)])
  | "word" => some asciiWord
  | "xdigit" => some (ofRanges [(0x30, 0x39), (0x41, 0x46), (0x61, 0x66)])
  | _ => Option.none

/-- A rough count of the bytes that a class takes when it is spelled out. -/
def weight : CharClass → Nat
  | .none => 0
  | .range _ high => if high < 0x80 then 32 else 96
  | .digit => 5000
  | .space => 1000
  | .word => 50000
  | .complement c => 256 + c.weight
  | .union a b => a.weight + b.weight
  | .inter a b => a.weight + b.weight
  | .folded c => c.weight

end CharClass

end Excerpt.Pattern
