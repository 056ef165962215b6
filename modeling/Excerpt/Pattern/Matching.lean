import Excerpt.Pattern.Cursor
import Excerpt.Pattern.Node
import Excerpt.Pattern.Reader

/-! # Matching

A node takes a list of ways that lead to it and gives the ways that lead through it, both with the
preferred ways first. The first way through the whole node is the match. Of several ways to one
place only the first can win, so no list holds two of them. -/

namespace Excerpt.Pattern

/-! ## Assertions -/

/-- Whether there is a character of a word. -/
def isWordAt (unicode : Bool) : Option Char → Bool
  | none => false
  | some c => (if unicode then CharClass.word else .asciiWord).accepts c

/-- Whether an assertion holds between two characters of the text, or at an end of it. -/
def Assertion.holds (before after : Option Char) : Assertion → Bool
  | .textStart => before.isNone
  | .textEnd => after.isNone
  | .lineStart => before.isNone || before == some '\n'
  | .lineEnd => after.isNone || after == some '\n'
  | .lineStartCrLf =>
    before.isNone || before == some '\n' || (before == some '\r' && after != some '\n')
  | .lineEndCrLf =>
    after.isNone || after == some '\r' || (after == some '\n' && before != some '\r')
  | .wordBoundary u => isWordAt u before != isWordAt u after
  | .noWordBoundary u => isWordAt u before == isWordAt u after
  | .wordStart u => !isWordAt u before && isWordAt u after
  | .wordEnd u => isWordAt u before && !isWordAt u after
  | .wordStartHalf u => !isWordAt u before
  | .wordEndHalf u => !isWordAt u after

/-! ## Ways -/

/-- Where a way has led: the place, the starts of the groups that it is in, the groups captured so
far with the last one in front, and the gates passed at this place. -/
structure Way where
  cursor : Cursor
  opened : List Cursor
  groups : List (String × Cursor × Cursor)
  seen : List Nat
  deriving DecidableEq, Repr

namespace Way

def start (c : Cursor) : Way :=
  ⟨c, [], [], []⟩

def index (w : Way) : Nat :=
  w.cursor.index

/-- Consumes one character of a class. -/
def step? (c : CharClass) (w : Way) : Option Way :=
  match w.cursor.after with
  | [] => none
  | char :: rest =>
    if c.accepts char then
      some { w with cursor := ⟨w.cursor.index + 1, char :: w.cursor.before, rest⟩, seen := [] }
    else none

/-- Whether an assertion holds at the place of the way. -/
def satisfies (a : Assertion) (w : Way) : Bool :=
  a.holds w.cursor.before.head? w.cursor.after.head?

/-- Enters a group. -/
def enter (w : Way) : Way :=
  { w with opened := w.cursor :: w.opened }

/-- Leaves the group entered last and captures it. -/
def leave (name : String) (w : Way) : Way :=
  match w.opened with
  | [] => w
  | from_ :: opened => { w with opened := opened, groups := (name, from_, w.cursor) :: w.groups }

/-- Passes a gate that has not been passed here. -/
def pass? (label : Nat) (w : Way) : Option Way :=
  if w.seen.contains label then none else some { w with seen := label :: w.seen }

end Way

/-! ## Ways through a node -/

/-- Places of a text, as the bits of a number. -/
structure Places where
  bits : Nat

namespace Places

def none : Places :=
  ⟨0⟩

def contains (places : Places) (index : Nat) : Bool :=
  places.bits.testBit index

def insert (places : Places) (index : Nat) : Places :=
  ⟨places.bits ||| 1 <<< index⟩

end Places

/-- Keeps the first way to every place that has not been reached. -/
def keepFirst (reached : Places) : List Way → List Way
  | [] => []
  | w :: rest =>
    if reached.contains w.index then keepFirst reached rest
    else w :: keepFirst (reached.insert w.index) rest

/-- Goes on from each of several ways in turn. -/
def branchEach (ways : List Way) (next : Way → List Way) : List Way :=
  keepFirst .none (ways.flatMap next)

/-- Visits several ways in turn, each of which adds to the places that have been reached. -/
def visitAll (visit : Way → Places → List Way × Places) :
    List Way → Places → List Way × Places
  | [], reached => ([], reached)
  | w :: rest, reached =>
    let (first, reached) := visit w reached
    let (others, reached) := visitAll visit rest reached
    (first ++ others, reached)

/-- All further rounds of a loop from the end of a round on. A loop goes on from every place only
once. A greedy loop prefers further rounds to leaving, any other prefers leaving. -/
def visitRounds (round : Way → List Way) (greedy : Bool) :
    Nat → Way → Places → List Way × Places
  | fuel, w, reached =>
    if reached.contains w.index then ([], reached)
    else
      let reached := reached.insert w.index
      match fuel with
      | 0 => ([w], reached)
      | fuel + 1 =>
        let (further, reached) := visitAll (visitRounds round greedy fuel) (round w) reached
        (if greedy then further ++ [w] else w :: further, reached)

/-- Any number of rounds of a loop from each of several ways on. A round moves on by a character
at least, so there are not more rounds than characters. -/
def manyRounds (round : Way → List Way) (greedy : Bool) (ways : List Way) : List Way :=
  (visitAll (fun w => visitRounds round greedy w.cursor.after.length w) ways .none).1

/-- The ways through a node that several ways lead to. -/
def Node.run : Node → List Way → List Way
  | .empty, ways => ways
  | .set c, ways => ways.filterMap (Way.step? c)
  | .look a, ways => ways.filter (Way.satisfies a)
  | .capture name body, ways => (body.run (ways.map Way.enter)).map (Way.leave name)
  | .cat a b, ways => b.run (a.run ways)
  | .alt a b, ways => branchEach ways fun w => a.run [w] ++ b.run [w]
  | .option true body, ways => branchEach ways fun w => body.run [w] ++ [w]
  | .option false body, ways => branchEach ways fun w => w :: body.run [w]
  | .star greedy body, ways => manyRounds (fun w => body.run [w]) greedy ways
  | .plus greedy body, ways => manyRounds (fun w => body.run [w]) greedy (body.run ways)
  | .gate label, ways => ways.filterMap (Way.pass? label)

/-! ## Searching -/

/-- A match, with the last capture of every group. -/
structure Match where
  start : Cursor
  stop : Cursor
  groups : List (String × Cursor × Cursor)
  deriving DecidableEq, Repr

namespace Match

def isEmpty (m : Match) : Bool :=
  m.start.index == m.stop.index

/-- The text that a group captured. -/
def group? (m : Match) (name : String) : Option Text :=
  (m.groups.lookup name).map fun (start, stop) => start.upTo stop

end Match

/-- The match that starts at a place. -/
def Node.matchAt (n : Node) (c : Cursor) : Option Match :=
  (n.run [.start c]).head?.map fun w => ⟨c, w.cursor, w.groups⟩

/-- The match that starts first, looked for from a place on. -/
def Node.searchFrom (n : Node) (index : Nat) (before : Text) : Text → Option Match
  | [] => n.matchAt ⟨index, before, []⟩
  | char :: rest =>
    match n.matchAt ⟨index, before, char :: rest⟩ with
    | some m => some m
    | none => n.searchFrom (index + 1) (char :: before) rest

/-- The match that starts first at or behind a place. What stands in front of the place is still
seen by assertions. -/
def Node.search (n : Node) (c : Cursor) : Option Match :=
  n.searchFrom c.index c.before c.after

/-- Makes a pattern ready for matching. -/
def compile (pattern : Text) : Option Node :=
  (readExpr pattern).map .ofExpr

/-- Whether a pattern matches somewhere in a text. -/
def Node.isMatch (n : Node) (t : Text) : Bool :=
  (n.search (.start t)).isSome

end Excerpt.Pattern
