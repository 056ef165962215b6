import Excerpt.Text.Basic

/-! # Places in a text -/

namespace Excerpt.Pattern

/-- A place in a text: the number of characters in front of it, those characters in reverse, and
the characters behind it. -/
structure Cursor where
  index : Nat
  before : Text
  after : Text
  deriving DecidableEq, Repr

namespace Cursor

def start (t : Text) : Cursor :=
  ⟨0, [], t⟩

/-- The text that the cursor moves in. -/
def text (c : Cursor) : Text :=
  c.before.reverse ++ c.after

/-- The number of bytes in front of the place. -/
def offset (c : Cursor) : Nat :=
  c.before.byteLength

/-- One character further, unless the text ends here. -/
def next? (c : Cursor) : Option Cursor :=
  match c.after with
  | [] => none
  | char :: rest => some ⟨c.index + 1, char :: c.before, rest⟩

/-- The text from one place up to another. -/
def upTo (c stop : Cursor) : Text :=
  c.after.take (stop.index - c.index)

end Cursor

end Excerpt.Pattern
