import Excerpt.Text.Basic

/-! # Line numbers of byte offsets

A counter remembers how far it has counted and goes on from there. An offset in front of that
point restarts it from the top, and one past the end stands for the end. -/

namespace Excerpt

/-- The number of line breaks among the first `offset` bytes of a text. -/
def Text.breaksBefore : Text → Nat → Nat
  | [], _ => 0
  | c :: rest, offset =>
    if offset = 0 then 0
    else (if c = '\n' then 1 else 0) + breaksBefore rest (offset - c.utf8Size)

/-- The number of line breaks from byte `start` up to byte `stop`. -/
def Text.breaksBetween (t : Text) (start stop : Nat) : Nat :=
  t.breaksBefore stop - t.breaksBefore start

/-- The line, counted from 1, that the counter has reached at `position`. -/
structure LineCounter where
  text : Text
  position : Nat
  line : Nat
  deriving DecidableEq, Repr

namespace LineCounter

/-- A counter at the start of a text. -/
def ofText (text : Text) : LineCounter :=
  ⟨text, 0, 1⟩

/-- Moves the counter to an offset. -/
def seek (counter : LineCounter) (offset : Nat) : LineCounter :=
  let offset := min offset counter.text.byteLength
  if offset < counter.position then
    ⟨counter.text, offset, 1 + counter.text.breaksBetween 0 offset⟩
  else
    ⟨counter.text, offset, counter.line + counter.text.breaksBetween counter.position offset⟩

/-- The line of the character at an offset, and the counter that has moved there. -/
def lineAt (counter : LineCounter) (offset : Nat) : Nat × LineCounter :=
  let moved := counter.seek offset
  (moved.line, moved)

/-- The lines of several offsets, asked of one counter in turn. -/
def linesAt (counter : LineCounter) : List Nat → List Nat
  | [] => []
  | offset :: offsets =>
    let (line, moved) := counter.lineAt offset
    line :: moved.linesAt offsets

end LineCounter

end Excerpt
