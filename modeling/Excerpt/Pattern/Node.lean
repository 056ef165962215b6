import Excerpt.Pattern.Expr

/-! # Nodes for matching

A node is an expression whose repetitions have been spelled out. A loop whose body can match the
empty text would run forever at one place. Its body holds gates: a gate lets a match through only
once at a place of the text, so that every further round has to move on. -/

namespace Excerpt.Pattern

inductive Node where
  | empty
  | set (c : CharClass)
  | look (a : Assertion)
  | capture (name : String) (body : Node)
  | cat (a b : Node)
  | alt (a b : Node)
  | option (greedy : Bool) (body : Node)
  | star (greedy : Bool) (body : Node)
  | plus (greedy : Bool) (body : Node)
  | gate (label : Nat)
  deriving DecidableEq, Repr

namespace Node

/-- Puts a gate behind a node where ways join inside a loop. -/
def joined (gated : Bool) (label : Nat) (n : Node) : Node :=
  if gated then .cat n (.gate label) else n

/-- So many copies of a node, each made with labels of its own. -/
def copies (make : Nat → Node × Nat) : Nat → Nat → Node × Nat
  | 0, label => (.empty, label)
  | 1, label => make label
  | count + 1, label =>
    let (first, label) := make label
    let (others, label) := copies make count label
    (.cat first others, label)

/-- Up to so many copies of a node, each one only after the one before. -/
def optionalCopies (make : Nat → Node × Nat) (greedy : Bool) : Nat → Nat → Node × Nat
  | 0, label => (.empty, label)
  | 1, label =>
    let (first, label) := make label
    (.option greedy first, label)
  | count + 1, label =>
    let (first, label) := make label
    let (others, label) := optionalCopies make greedy count label
    (.option greedy (.cat first others), label)

/-- One or more rounds of a body. -/
def loop (make : Bool → Nat → Node × Nat) (gated nullable greedy : Bool) (label : Nat) :
    Node × Nat :=
  if nullable then
    let (body, next) := make true (label + 1)
    (.plus greedy (.cat (.gate label) body), next)
  else
    let (body, label) := make gated label
    (.plus greedy body, label)

/-- Any number of rounds of a body. -/
def anyRounds (make : Bool → Nat → Node × Nat) (gated nullable greedy : Bool) (label : Nat) :
    Node × Nat :=
  if nullable then
    let (rounds, label) := loop make gated nullable greedy label
    (joined gated label (.option greedy rounds), label + 1)
  else
    let (body, label) := make gated label
    if gated then
      (.cat (.gate label) (.star greedy (.cat body (.gate label))), label + 1)
    else (.star greedy body, label)

/-- Spells out a repetition. What can match nothing but the empty text is tried once at most. -/
def repetition (make : Bool → Nat → Node × Nat) (gated nullable onlyEmpty greedy : Bool)
    (least : Nat) (most : Option Nat) (label : Nat) : Node × Nat :=
  let (least, most) :=
    if onlyEmpty then (min least 1, some (min (most.getD 1) 1)) else (least, most)
  match least, most with
  | 0, none => anyRounds make gated nullable greedy label
  | least + 1, none =>
    let (first, label) := copies (make gated) least label
    let (rounds, label) := loop make gated nullable greedy label
    (if least = 0 then rounds else .cat first rounds, label)
  | least, some most =>
    let (first, label) := copies (make gated) least label
    if most ≤ least then (first, label)
    else
      let (others, label) := optionalCopies (make gated) greedy (most - least) label
      let both := if least = 0 then others else .cat first others
      (joined gated label both, label + 1)

/-- The node of an expression, with labels from `label` on, and the next label that is free. -/
def build : Expr → Bool → Nat → Node × Nat
  | .empty, _, label => (.empty, label)
  | .directive, _, label => (.empty, label)
  | .set c, _, label => (.set c, label)
  | .look a, _, label => (.look a, label)
  | .capture none body, gated, label => build body gated label
  | .capture (some name) body, gated, label =>
    let (n, label) := build body gated label
    (.capture name n, label)
  | .group body, gated, label => build body gated label
  | .cat a b, gated, label =>
    let (m, label) := build a gated label
    let (n, label) := build b gated label
    (.cat m n, label)
  | .alt a b, gated, label =>
    let (m, label) := build a gated label
    let (n, label) := build b gated label
    (joined gated label (.alt m n), label + 1)
  | .repeated least most greedy body, gated, label =>
    repetition (build body) gated body.nullable body.onlyEmpty greedy least most label

def ofExpr (e : Expr) : Node :=
  (build e false 0).1

end Node

end Excerpt.Pattern
