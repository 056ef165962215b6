import Excerpt.Pattern.CharClass

/-! # Expressions of the pattern language -/

namespace Excerpt.Pattern

/-- What a place in the text can be asked without consuming a character. The places at words ask
for characters of the whole character set or of ASCII only. -/
inductive Assertion where
  | textStart
  | textEnd
  | lineStart
  | lineEnd
  | lineStartCrLf
  | lineEndCrLf
  | wordBoundary (unicode : Bool)
  | noWordBoundary (unicode : Bool)
  | wordStart (unicode : Bool)
  | wordEnd (unicode : Bool)
  | wordStartHalf (unicode : Bool)
  | wordEndHalf (unicode : Bool)
  deriving DecidableEq, Repr

/-- The meaning of a pattern before it is made ready for matching. The flags of the pattern have
been worked in. A directive is a place where flags change; it matches the empty text, but cannot
be repeated. -/
inductive Expr where
  | empty
  | directive
  | set (c : CharClass)
  | look (a : Assertion)
  | repeated (least : Nat) (most : Option Nat) (greedy : Bool) (body : Expr)
  | capture (name : Option String) (body : Expr)
  | group (body : Expr)
  | cat (a b : Expr)
  | alt (a b : Expr)
  deriving DecidableEq, Repr

namespace Expr

/-- The concatenation of several expressions. -/
def concat : List Expr → Expr
  | [] => .empty
  | [e] => e
  | e :: rest => .cat e (concat rest)

/-- The choice between several expressions, the first one preferred. -/
def choice : List Expr → Expr
  | [] => .empty
  | [e] => e
  | e :: rest => .alt e (choice rest)

/-- The names of the capture groups. -/
def names : Expr → List String
  | .capture name body => name.toList ++ body.names
  | .repeated _ _ _ body => body.names
  | .group body => body.names
  | .cat a b => a.names ++ b.names
  | .alt a b => a.names ++ b.names
  | _ => []

def isCat : Expr → Bool
  | .cat _ _ => true
  | _ => false

def isAlt : Expr → Bool
  | .alt _ _ => true
  | _ => false

/-- How deep expressions stand inside each other. A concatenation counts as one level, and so
does a choice, however long. -/
def depth : Expr → Nat
  | .repeated _ _ _ body => body.depth + 1
  | .capture _ body => body.depth + 1
  | .group body => body.depth + 1
  | .cat a b => max (a.depth + 1) (if b.isCat then b.depth else b.depth + 1)
  | .alt a b => max (a.depth + 1) (if b.isAlt then b.depth else b.depth + 1)
  | .set _ => 0
  | _ => 0

/-- Whether the expression can match the empty text. -/
def nullable : Expr → Bool
  | .set _ => false
  | .repeated least _ _ body => least == 0 || body.nullable
  | .capture _ body => body.nullable
  | .group body => body.nullable
  | .cat a b => a.nullable && b.nullable
  | .alt a b => a.nullable || b.nullable
  | _ => true

/-- Whether the expression can match nothing but the empty text. -/
def onlyEmpty : Expr → Bool
  | .set _ => false
  | .repeated _ most _ body => most == some 0 || body.onlyEmpty
  | .capture _ body => body.onlyEmpty
  | .group body => body.onlyEmpty
  | .cat a b => a.onlyEmpty && b.onlyEmpty
  | .alt a b => a.onlyEmpty && b.onlyEmpty
  | _ => true

/-- A rough count of the bytes that an expression takes when its repetitions are spelled out. -/
def weight : Expr → Nat
  | .set c => 32 + c.weight
  | .repeated least most _ body =>
    match most with
    | some 0 => 0
    | some most => most * (body.weight + 32)
    | none => max least 1 * (body.weight + 32)
  | .capture _ body => body.weight + 64
  | .group body => body.weight
  | .cat a b => a.weight + b.weight
  | .alt a b => a.weight + b.weight + 32
  | _ => 32

end Expr

end Excerpt.Pattern
