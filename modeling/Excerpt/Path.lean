import Excerpt.Text.Basic

/-! # Paths

Paths are taken as they are spelled: joining and going up work on the text alone, and no spelling
is ever simplified. -/

namespace Excerpt.Path

def isAbsolute (path : Text) : Bool :=
  path.head? == some '/'

/-- A path inside another one. An absolute path stays what it is. -/
def join (base path : Text) : Text :=
  if isAbsolute path || base.isEmpty then path
  else if base.getLast? == some '/' then base ++ path
  else base ++ '/' :: path

/-- The parts of a text between slashes. -/
def parts : Text → List Text
  | [] => [[]]
  | c :: rest =>
    if c = '/' then [] :: parts rest
    else
      match parts rest with
      | [] => [[c]]
      | part :: others => (c :: part) :: others

/-- Puts a slash between neighbouring parts. -/
def ofParts : List Text → Text
  | [] => []
  | [part] => part
  | part :: others => part ++ '/' :: ofParts others

/-- Parts that lead nowhere: empty ones, and single dots. -/
def isVoid (part : Text) : Bool :=
  part.isEmpty || part == ['.']

/-- The start of a path that belongs to none of its parts: the root, or a dot for the directory at
hand. -/
def leader (path : Text) : Text :=
  match path with
  | '/' :: _ => ['/']
  | ['.'] => ['.']
  | '.' :: '/' :: _ => ['.']
  | _ => []

/-- Drops void parts from the end, given in reverse. -/
def dropVoid (reversed : List Text) : List Text :=
  reversed.dropWhile isVoid

/-- The path without its last part. The root and the empty path have none. -/
def parent? (path : Text) : Option Text :=
  let start := leader path
  match dropVoid (parts (path.drop start.length)).reverse with
  | _ :: others => some (start ++ ofParts (dropVoid others).reverse)
  | [] => if start == ['.'] then some [] else none

/-- At most so many of the paths above a path. -/
def ancestorsUpTo : Nat → Text → List Text
  | 0, _ => []
  | fuel + 1, path =>
    match parent? path with
    | none => []
    | some up => up :: ancestorsUpTo fuel up

/-- A path and those above it, the nearest first. -/
def selfAndAncestors (path : Text) : List Text :=
  path :: ancestorsUpTo path.length path

end Excerpt.Path
