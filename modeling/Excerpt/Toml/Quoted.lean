import Excerpt.Json.Quoted

/-! # Strings in TOML

Basic strings stand in double quotes and know escapes, literal strings stand in single quotes and
know none. Tripled quotes let a string run over several lines. -/

namespace Excerpt.Toml

/-- The characters that may stand in a comment or, quotes and backslashes apart, in a string. -/
def isPrintable (c : Char) : Bool :=
  c == '\t' || (0x20 ≤ c.toNat && c.toNat != 0x7F)

/-- Blanks within a line. -/
def isSpace (c : Char) : Bool :=
  c == ' ' || c == '\t'

/-- Takes a line break off the front of a text. -/
def lineBreak? : Text → Option Text
  | '\n' :: rest => some rest
  | '\r' :: '\n' :: rest => some rest
  | _ => none

/-- The character of a code point written in hexadecimal digits. -/
def scalarOfHex? (digits : Text) : Option Char := do
  let values ← digits.mapM Json.hexValue?
  let n := values.foldl (fun n d => 16 * n + d) 0
  if h : n.isValidChar then some (Char.ofNatAux n h) else none

/-- Reads the character of an escape, whose backslash has been read. -/
def readEscape : Text → Option (Char × Text)
  | 'b' :: rest => some ('\x08', rest)
  | 't' :: rest => some ('\t', rest)
  | 'n' :: rest => some ('\n', rest)
  | 'f' :: rest => some ('\x0c', rest)
  | 'r' :: rest => some ('\r', rest)
  | '"' :: rest => some ('"', rest)
  | '\\' :: rest => some ('\\', rest)
  | 'u' :: a :: b :: c :: d :: rest => (scalarOfHex? [a, b, c, d]).map (·, rest)
  | 'U' :: a :: b :: c :: d :: e :: f :: g :: h :: rest =>
    (scalarOfHex? [a, b, c, d, e, f, g, h]).map (·, rest)
  | _ => none

/-- Reads a basic string up to its closing quote. -/
def readBasic : Nat → Text → Option (Text × Text)
  | 0, _ => none
  | fuel + 1, t =>
    match t with
    | [] => none
    | '"' :: rest => some ([], rest)
    | '\\' :: rest => do
      let (c, rest) ← readEscape rest
      let (s, rest) ← readBasic fuel rest
      return (c :: s, rest)
    | c :: rest =>
      if isPrintable c then (readBasic fuel rest).map fun (s, rest) => (c :: s, rest) else none

/-- Reads a literal string up to its closing quote. -/
def readLiteral : Text → Option (Text × Text)
  | [] => none
  | '\'' :: rest => some ([], rest)
  | c :: rest =>
    if isPrintable c then (readLiteral rest).map fun (s, rest) => (c :: s, rest) else none

/-- Splits a run of quotes in a string of several lines into those that belong to the string and
the text behind its end. Fewer than three quotes end nothing, and of more than three the first
one or two still belong to the string. -/
def splitQuotes (quote : Char) (t : Text) : Text × Option Text :=
  let run := (t.takeWhile (· == quote)).length
  if run < 3 then (List.replicate run quote, none)
  else
    let inner := min (run - 3) 2
    (List.replicate inner quote, some (t.drop (inner + 3)))

/-- Skips blanks and line breaks. -/
def skipBlankLines : Text → Text
  | ' ' :: rest => skipBlankLines rest
  | '\t' :: rest => skipBlankLines rest
  | '\n' :: rest => skipBlankLines rest
  | '\r' :: '\n' :: rest => skipBlankLines rest
  | t => t

/-- The text behind a backslash at the end of a line. Blanks and line breaks are skipped up to the
next character that is neither. -/
def continuation? (t : Text) : Option Text :=
  (lineBreak? (t.dropWhile isSpace)).map skipBlankLines

/-- Reads a string of several lines up to its closing quotes. Line breaks become line feeds. -/
def readMultiline (quote : Char) (escapes : Bool) : Nat → Text → Option (Text × Text)
  | 0, _ => none
  | fuel + 1, t =>
    match lineBreak? t with
    | some rest =>
      (readMultiline quote escapes fuel rest).map fun (s, rest) => ('\n' :: s, rest)
    | none =>
      match t with
      | [] => none
      | c :: rest =>
        if c = quote then
          match splitQuotes quote t with
          | (inner, some rest) => some (inner, rest)
          | (inner, none) =>
            (readMultiline quote escapes fuel (t.drop inner.length)).map fun (s, rest) =>
              (inner ++ s, rest)
        else if escapes && c = '\\' then
          match continuation? rest with
          | some rest => readMultiline quote escapes fuel rest
          | none => do
            let (c, rest) ← readEscape rest
            let (s, rest) ← readMultiline quote escapes fuel rest
            return (c :: s, rest)
        else if isPrintable c then
          (readMultiline quote escapes fuel rest).map fun (s, rest) => (c :: s, rest)
        else none

/-- Drops the line break that may follow the opening quotes of a string of several lines. -/
def dropFirstBreak (t : Text) : Text :=
  (lineBreak? t).getD t

/-- Reads a string of any kind. -/
def readString (t : Text) : Option (Text × Text) :=
  match t with
  | '"' :: '"' :: '"' :: rest => readMultiline '"' true (rest.length + 1) (dropFirstBreak rest)
  | '"' :: rest => readBasic (rest.length + 1) rest
  | '\'' :: '\'' :: '\'' :: rest =>
    readMultiline '\'' false (rest.length + 1) (dropFirstBreak rest)
  | '\'' :: rest => readLiteral rest
  | _ => none

end Excerpt.Toml
