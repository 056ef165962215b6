import Excerpt.Toml.DateTime
import Excerpt.Toml.Numeral
import Excerpt.Toml.Quoted
import Excerpt.Toml.Table

/-! # Reading TOML -/

namespace Excerpt.Toml

def skipSpace (t : Text) : Text :=
  t.dropWhile isSpace

/-- Skips a comment up to the end of its line. -/
def skipComment (t : Text) : Text :=
  match t with
  | '#' :: rest => rest.dropWhile isPrintable
  | t => t

/-- Ends a line: blanks and a comment, and then a line break or the end of the text. -/
def endLine? (t : Text) : Option Text :=
  match skipComment (skipSpace t) with
  | [] => some []
  | t => lineBreak? t

/-! ## Keys -/

def isBareKeyChar (c : Char) : Bool :=
  c.isAlphanum || c == '-' || c == '_'

/-- Reads one part of a key. -/
def readKeyPart (t : Text) : Option (String × Text) :=
  match t with
  | '"' :: rest => (readBasic (rest.length + 1) rest).map fun (s, rest) => (String.ofList s, rest)
  | '\'' :: rest => (readLiteral rest).map fun (s, rest) => (String.ofList s, rest)
  | t =>
    match t.takeWhile isBareKeyChar with
    | [] => none
    | name => some (String.ofList name, t.dropWhile isBareKeyChar)

/-- Reads the parts of a dotted key, with blanks around them. -/
def readKeyParts : Nat → Text → Option (List String × Text)
  | 0, _ => none
  | fuel + 1, t => do
    let (part, t) ← readKeyPart (skipSpace t)
    match skipSpace t with
    | '.' :: rest =>
      let (parts, rest) ← readKeyParts fuel rest
      return (part :: parts, rest)
    | t => return ([part], t)

/-- The greatest number of parts of a key, and of lists and tables inside each other. -/
def maxNesting : Nat := 79

/-- Reads a key: the path to a table, and the last part. -/
def readKey (t : Text) : Option ((List String × String) × Text) := do
  let (parts, rest) ← readKeyParts (t.length + 1) t
  if maxNesting < parts.length then none
  else
    let key ← parts.getLast?
    return ((parts.dropLast, key), rest)

/-! ## Values -/

/-- Skips blanks, line breaks and comments between the items of a list. -/
def skipFiller (inComment : Bool) : Text → Text
  | [] => []
  | '\r' :: '\n' :: rest => skipFiller false rest
  | c :: rest =>
    if inComment && isPrintable c then skipFiller true rest
    else if c = '\n' || isSpace c then skipFiller false rest
    else if c = '#' then skipFiller true rest
    else c :: rest

/-- Reads the items of a list up to the closing bracket, a comma behind each but the last, where it
may be missing. -/
def readItems (value : Text → Option (Value × Text)) : Nat → Text → Option (List Value × Text)
  | 0, _ => none
  | fuel + 1, t =>
    match skipFiller false t with
    | ']' :: rest => some ([], rest)
    | t => do
      let (v, t) ← value t
      match skipFiller false t with
      | ',' :: rest =>
        let (vs, rest) ← readItems value fuel rest
        return (v :: vs, rest)
      | ']' :: rest => return ([v], rest)
      | _ => none

/-- Reads a key, an equals sign and a value. -/
def readPair (value : Text → Option (Value × Text)) (t : Text) :
    Option ((List String × String) × Value × Text) := do
  let (key, t) ← readKey t
  match t with
  | '=' :: rest =>
    let (v, rest) ← value (skipSpace rest)
    return (key, v, rest)
  | _ => none

/-- Reads the pairs of an inline table up to the closing brace. They stand in one line, with commas
between them. -/
def readPairs (value : Text → Option (Value × Text)) (members : Members) :
    Nat → Text → Option (Members × Text)
  | 0, _ => none
  | fuel + 1, t => do
    let ((path, key), v, t) ← readPair value t
    let members ← members.define path key v
    match skipSpace t with
    | ',' :: rest => readPairs value members fuel rest
    | '}' :: rest => return (members, rest)
    | _ => none

/-- Reads a date, a time or a number. -/
def readPlain (t : Text) : Option (Value × Text) :=
  (readDateTime t).or ((readReal t).or (readInteger t))

/-- Reads a value in which lists and tables may still nest `depth` deep. -/
def readValue : Nat → Text → Option (Value × Text)
  | depth, t =>
    match t with
    | '"' :: _ => (readString t).map fun (s, rest) => (.text (String.ofList s), rest)
    | '\'' :: _ => (readString t).map fun (s, rest) => (.text (String.ofList s), rest)
    | 't' :: 'r' :: 'u' :: 'e' :: rest => some (.bool true, rest)
    | 'f' :: 'a' :: 'l' :: 's' :: 'e' :: rest => some (.bool false, rest)
    | '[' :: rest =>
      match depth with
      | 0 => none
      | depth + 1 =>
        (readItems (readValue depth) (rest.length + 1) rest).map fun (vs, rest) => (.list vs, rest)
    | '{' :: rest =>
      match depth with
      | 0 => none
      | depth + 1 =>
        match skipSpace rest with
        | '}' :: rest => some (.record [], rest)
        | rest =>
          (readPairs (readValue depth) [] (rest.length + 1) rest).map fun (members, rest) =>
            (members.toValue, rest)
    | t => readPlain t

/-! ## Documents -/

/-- Reads the header of a table, whose opening bracket has been read. -/
def readHeader (t : Text) : Option (Header × Text) := do
  match t with
  | '[' :: rest =>
    let ((path, key), rest) ← readKey rest
    match rest with
    | ']' :: ']' :: rest => return (⟨path, key, true⟩, rest)
    | _ => none
  | t =>
    let ((path, key), rest) ← readKey t
    match rest with
    | ']' :: rest => return (⟨path, key, false⟩, rest)
    | _ => none

/-- Reads line after line. -/
def readLines (d : Document) : Nat → Text → Option Value
  | 0, _ => none
  | fuel + 1, t =>
    match skipSpace t with
    | [] => d.toValue?
    | '#' :: rest => do readLines d fuel (← endLine? ('#' :: rest))
    | '\n' :: rest => readLines d fuel rest
    | '\r' :: '\n' :: rest => readLines d fuel rest
    | '[' :: rest => do
      let (header, rest) ← readHeader rest
      readLines (← d.start header) fuel (← endLine? rest)
    | t => do
      let ((path, key), v, rest) ← readPair (readValue maxNesting) t
      readLines (← d.define path key v) fuel (← endLine? rest)

/-- Reads a document, which is a record. A byte order mark in front of it is skipped. -/
def parse (t : Text) : Option Value :=
  let t := match t with
    | '\uFEFF' :: rest => rest
    | t => t
  readLines .empty (t.length + 1) t

end Excerpt.Toml
