import Excerpt.Json.Numeral
import Excerpt.Json.Quoted

/-! # Reading JSON

The strict grammar: one value with blanks around it, no comments and no trailing commas. Values
nest at most `maxDepth` deep, which is also what the recursion goes down on. -/

namespace Excerpt.Json

/-- The greatest number of lists and records inside each other. -/
def maxDepth : Nat := 127

def isSpace (c : Char) : Bool :=
  c == ' ' || c == '\t' || c == '\n' || c == '\r'

def skipSpace (t : Text) : Text :=
  t.dropWhile isSpace

/-- Reads one item and then, after every comma, another one, up to the closing mark. -/
def readMore {α : Type} (item : Text → Option (α × Text)) (close : Char) :
    Nat → Text → Option (List α × Text)
  | 0, _ => none
  | fuel + 1, t =>
    match item t with
    | none => none
    | some (x, t) =>
      match skipSpace t with
      | ',' :: t => (readMore item close fuel t).map fun (xs, t) => (x :: xs, t)
      | c :: t => if c = close then some ([x], t) else none
      | [] => none

/-- Reads a series of items whose opening mark has been read. -/
def readSeries {α : Type} (item : Text → Option (α × Text)) (close : Char) (t : Text) :
    Option (List α × Text) :=
  match skipSpace t with
  | [] => none
  | c :: rest => if c = close then some ([], rest) else readMore item close t.length t

/-- Reads a key, a colon and a value. -/
def readMember (value : Text → Option (Value × Text)) (t : Text) :
    Option ((String × Value) × Text) :=
  match skipSpace t with
  | '"' :: t =>
    match readQuoted t with
    | none => none
    | some (key, t) =>
      match skipSpace t with
      | ':' :: t => (value t).map fun (v, t) => ((String.ofList key, v), t)
      | _ => none
  | _ => none

/-- Reads one value that may still nest `depth` deep. -/
def readValue : Nat → Text → Option (Value × Text)
  | depth, t =>
    match skipSpace t with
    | 'n' :: 'u' :: 'l' :: 'l' :: rest => some (.null, rest)
    | 't' :: 'r' :: 'u' :: 'e' :: rest => some (.bool true, rest)
    | 'f' :: 'a' :: 'l' :: 's' :: 'e' :: rest => some (.bool false, rest)
    | '"' :: rest => (readQuoted rest).map fun (s, rest) => (.text (String.ofList s), rest)
    | '[' :: rest =>
      match depth with
      | 0 => none
      | depth + 1 =>
        (readSeries (readValue depth) ']' rest).map fun (items, rest) => (.list items, rest)
    | '{' :: rest =>
      match depth with
      | 0 => none
      | depth + 1 =>
        (readSeries (readMember (readValue depth)) '}' rest).map fun (members, rest) =>
          (.record (Value.sortMembers members), rest)
    | t => (readNumber t).map fun (n, rest) => (.number n, rest)

/-- Reads a whole text as one value. -/
def parse (t : Text) : Option Value :=
  match readValue maxDepth t with
  | some (v, rest) => if (skipSpace rest).isEmpty then some v else none
  | none => none

end Excerpt.Json
