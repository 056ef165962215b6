import Excerpt.Error
import Excerpt.Text.Basic

/-! # What can be seen of the files -/

namespace Excerpt

/-- The files as they can be read: the text at a path, and whether anything stands there. -/
structure FileView where
  read : Text → Except FileError Text
  isPresent : Text → Bool

/-- Reads a text file. -/
def FileView.readText (view : FileView) (path : Text) : Except Error Text :=
  match view.read path with
  | .ok t => .ok t
  | .error cause => .error (.file cause)

end Excerpt
