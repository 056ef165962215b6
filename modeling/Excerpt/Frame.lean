import Excerpt.Text.Blank

/-! # The frame of a snippet body

A line break directly after the opening tag and a blank line in front of the closing tag belong
to the tags and not to the snippet. -/

namespace Excerpt

/-- A body without its frame, and the number of host lines dropped in front of it. -/
structure Framed where
  text : Text
  skippedLines : Nat
  deriving DecidableEq, Repr

/-- Drops one line break, `"\n"` or `"\r\n"`, from the start of a body. -/
def dropOpeningBreak : Text → Framed
  | '\r' :: '\n' :: rest => ⟨rest, 1⟩
  | '\n' :: rest => ⟨rest, 1⟩
  | body => ⟨body, 0⟩

/-- Drops a carriage return from the end of a text. -/
def dropFinalReturn (t : Text) : Text :=
  if t.getLast? = some '\r' then t.dropLast else t

/-- Drops a blank last line with the line break in front of it. A body of one line keeps it. -/
def dropClosingLine (body : Text) : Text :=
  match body.lines.reverse with
  | last :: previous :: earlier =>
    if last.isBlank then dropFinalReturn (Text.unlines (previous :: earlier).reverse) else body
  | _ => body

/-- Takes the frame off a body. -/
def frame (body : Text) : Framed :=
  let opened := dropOpeningBreak body
  ⟨dropClosingLine opened.text, opened.skippedLines⟩

end Excerpt
