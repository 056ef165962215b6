import Excerpt.Text.Blank

/-! # Common indentation

Only spaces and tabs indent, one column each. The width that was removed is reported beside the
text, so that columns can be moved back later. -/

namespace Excerpt

/-- A text without its common indentation, and the width that was removed. -/
structure Reindented where
  text : Text
  indentColumns : Nat
  deriving DecidableEq, Repr

/-- Spaces and tabs indent a line. -/
def isIndent (c : Char) : Bool :=
  c == ' ' || c == '\t'

/-- The number of spaces and tabs a line starts with. -/
def indentWidth (line : Text) : Nat :=
  (line.takeWhile isIndent).length

/-- The indentation of a line that has content directly after it. A blank line, and a line whose
indentation runs into another kind of blank, has none. -/
def contentIndent (line : Text) : Option Nat :=
  match line.dropWhile isIndent with
  | [] => none
  | c :: _ => if isBlank c then none else some (indentWidth line)

/-- Removes `width` columns from a line that is indented that far, and nothing from any other. -/
def stripIndent (width : Nat) (line : Text) : Text :=
  if width ≤ indentWidth line then line.drop width else line

/-- The least indentation of the lines with content, zero when there is none. -/
def commonIndent (lines : List Text) : Nat :=
  (lines.filterMap contentIndent).min?.getD 0

/-- Removes the indentation that all lines with content share. -/
def reindent (text : Text) : Reindented :=
  let width := commonIndent text.lines
  if width = 0 then ⟨text, 0⟩
  else ⟨Text.unlines (text.lines.map (stripIndent width)), width⟩

end Excerpt
