import Excerpt.Json.Numeral
import Excerpt.Json.Quoted

/-! # Writing JSON

Members are written in the order in which the record has them. -/

namespace Excerpt.Json

/-- What stands in front of an item at a level, and between a key and its value. -/
structure Layout where
  lineBreak : Nat → Text
  colon : Text

/-- One item a line, two spaces a level. -/
def Layout.pretty : Layout where
  lineBreak level := '\n' :: List.replicate (2 * level) ' '
  colon := [':', ' ']

/-- All in one line, without spaces. -/
def Layout.compact : Layout where
  lineBreak _ := []
  colon := [':']

mutual

/-- Writes a value whose items stand one level deeper. -/
def write (layout : Layout) (level : Nat) : Value → Text
  | .null => ['n', 'u', 'l', 'l']
  | .bool true => ['t', 'r', 'u', 'e']
  | .bool false => ['f', 'a', 'l', 's', 'e']
  | .number n => numeral n
  | .text s => quote s.toList
  | .list [] => ['[', ']']
  | .list (v :: rest) =>
    '[' :: layout.lineBreak (level + 1) ++ write layout (level + 1) v
      ++ writeItems layout (level + 1) rest ++ layout.lineBreak level ++ [']']
  | .record [] => ['{', '}']
  | .record ((key, v) :: rest) =>
    '{' :: layout.lineBreak (level + 1) ++ quote key.toList ++ layout.colon
      ++ write layout (level + 1) v
      ++ writeMembers layout (level + 1) rest ++ layout.lineBreak level ++ ['}']

/-- Writes the items after the first one. -/
def writeItems (layout : Layout) (level : Nat) : List Value → Text
  | [] => []
  | v :: rest =>
    ',' :: layout.lineBreak level ++ write layout level v ++ writeItems layout level rest

/-- Writes the members after the first one. -/
def writeMembers (layout : Layout) (level : Nat) : List (String × Value) → Text
  | [] => []
  | (key, v) :: rest =>
    ',' :: layout.lineBreak level ++ quote key.toList ++ layout.colon
      ++ write layout level v ++ writeMembers layout level rest

end

/-- A value over several lines. -/
def pretty (v : Value) : Text :=
  write .pretty 0 v

/-- A value in one line. -/
def compact (v : Value) : Text :=
  write .compact 0 v

end Excerpt.Json
