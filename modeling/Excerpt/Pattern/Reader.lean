import Excerpt.Pattern.Expr
import Excerpt.Text.Letter

/-! # Reading patterns

A pattern is read from left to right with a stack of open groups. Flags hold from where they are
set to the end of the group they stand in.

Two things are left out, and patterns that use them are refused:
* Classes by Unicode property are no escapes here: neither `\p{..}` and `\P{..}` with the name of a
  property or its value in braces, nor `\pX` and `\PX` with a letter.
* With the flag `u` switched off a class holds ASCII characters only. A complement is taken to hold
  others wherever it stands, so also inside a class whose operations would leave none of them, as
  in `(?-u:[a-z&&[^aeiou]])`. -/

namespace Excerpt.Pattern

/-- The flags `i`, `m`, `s`, `U`, `u`, `R` and `x`. -/
structure Flags where
  ignoreCase : Bool := false
  multiLine : Bool := false
  dotMatchesBreak : Bool := false
  swapGreed : Bool := false
  unicode : Bool := true
  crLf : Bool := false
  ignoreSpace : Bool := false
  deriving DecidableEq, Repr

namespace Flags

/-- Whether a character is within reach of the flags. With `u` switched off only ASCII is. -/
def admits (flags : Flags) (c : Char) : Bool :=
  flags.unicode || c.toNat < 0x80

/-- A class as the flags take it. With `u` switched off only the case of ASCII letters is looked
past. -/
def fold (flags : Flags) (c : CharClass) : CharClass :=
  if !flags.ignoreCase then c
  else if flags.unicode then .folded c
  else .inter (.folded c) .ascii

/-- A character as the flags take it. -/
def foldChar (flags : Flags) (c : Char) : CharClass :=
  if !flags.ignoreCase || !flags.admits c then .single c
  else if flags.unicode then .anyCase c
  else .inter (.anyCase c) .ascii

/-- Switches the flag of a letter. -/
def set? (flags : Flags) (letter : Char) (on : Bool) : Option Flags :=
  match letter with
  | 'i' => some { flags with ignoreCase := on }
  | 'm' => some { flags with multiLine := on }
  | 's' => some { flags with dotMatchesBreak := on }
  | 'U' => some { flags with swapGreed := on }
  | 'u' => some { flags with unicode := on }
  | 'R' => some { flags with crLf := on }
  | 'x' => some { flags with ignoreSpace := on }
  | _ => none

end Flags

/-! ## Blanks and comments -/

/-- Skips blanks, and comments from `#` to the end of the line. -/
def skipBlanks (inComment : Bool) : Text → Text
  | [] => []
  | c :: rest =>
    if inComment then skipBlanks (c != '\n') rest
    else if isBlank c then skipBlanks false rest
    else if c = '#' then skipBlanks true rest
    else c :: rest

/-- Skips blanks and comments where the flags say so. -/
def Flags.skip (flags : Flags) (t : Text) : Text :=
  if flags.ignoreSpace then skipBlanks false t else t

/-! ## Escapes -/

/-- What a single item of a pattern can be. -/
inductive Primitive where
  | literal (c : Char)
  | named (c : CharClass)
  | look (a : Assertion)
  deriving DecidableEq, Repr

/-- Whether an item is within reach of the flags. Only a character can be out of it. -/
def Primitive.isWithin (flags : Flags) : Primitive → Bool
  | .literal c => flags.admits c
  | _ => true

def hexDigit? (c : Char) : Option Nat :=
  if '0' ≤ c ∧ c ≤ '9' then some (c.toNat - '0'.toNat)
  else if 'a' ≤ c ∧ c ≤ 'f' then some (c.toNat - 'a'.toNat + 10)
  else if 'A' ≤ c ∧ c ≤ 'F' then some (c.toNat - 'A'.toNat + 10)
  else none

/-- The character of a code point, if there is one. -/
def scalar? (n : Nat) : Option Char :=
  if h : n.isValidChar then some (Char.ofNatAux n h) else none

/-- Reads so many hexadecimal digits. -/
def readHexDigits (flags : Flags) : Nat → Nat → Text → Option (Nat × Text)
  | 0, value, t => some (value, t)
  | count + 1, value, t =>
    match t with
    | [] => none
    | c :: rest =>
      match hexDigit? c with
      | none => none
      | some d => readHexDigits flags count (16 * value + d) (flags.skip rest)

/-- Reads hexadecimal digits up to a closing brace. There is at least one. -/
def readHexBraced (flags : Flags) (any : Bool) (value : Nat) : Nat → Text → Option (Nat × Text)
  | 0, _ => none
  | fuel + 1, t =>
    match flags.skip t with
    | [] => none
    | '}' :: rest => if any then some (value, rest) else none
    | c :: rest =>
      match hexDigit? c with
      | none => none
      | some d => readHexBraced flags true (16 * value + d) fuel rest

/-- Reads the code point of an escape with so many digits, or any number of them in braces. -/
def readHex (flags : Flags) (digits : Nat) (t : Text) : Option (Primitive × Text) :=
  let read :=
    match flags.skip t with
    | '{' :: rest => readHexBraced flags false 0 (rest.length + 1) rest
    | t => readHexDigits flags digits 0 t
  match read with
  | none => none
  | some (n, rest) => (scalar? n).map fun c => (.literal c, rest)

/-- Reads an escape with two digits, or with braces. With `u` switched off two digits stand for a
byte, and one outside of ASCII would be a part of a character. -/
def readHexByte (flags : Flags) (t : Text) : Option (Primitive × Text) :=
  let braced := (flags.skip t).head? == some '{'
  (readHex flags 2 t).filter fun (item, _) => braced || item.isWithin flags

/-- The characters that mean something in a pattern. -/
def isMeta (c : Char) : Bool :=
  "\\.+*?()|[]\x7b\x7d^$#&-~".toList.contains c

/-- The other characters that may be escaped without need. -/
def isEscapable (c : Char) : Bool :=
  isMeta c || (c.toNat < 0x80 && !c.isAlphanum && c != '<' && c != '>')

/-- A named class, or its complement. Outside of the whole character set a complement would hold
parts of characters, so there is none. -/
def namedClass (flags : Flags) (complement : Bool) (whole ascii : CharClass) : Option Primitive :=
  if flags.unicode then
    some (.named (if complement then .complement whole else whole))
  else if complement then none
  else some (.named ascii)

/-- The letters and hyphens that a kind of word boundary is spelled with. -/
def isKindChar (c : Char) : Bool :=
  c.isAlpha || c == '-'

/-- Reads the kind of a word boundary. The characters read so far are kept in reverse. -/
def readKind (flags : Flags) (read : Text) : Nat → Text → String × Text
  | 0, t => (String.ofList read.reverse, t)
  | fuel + 1, t =>
    match flags.skip t with
    | c :: rest =>
      if isKindChar c then readKind flags (c :: read) fuel rest
      else (String.ofList read.reverse, c :: rest)
    | [] => (String.ofList read.reverse, [])

/-- Reads the kind of a word boundary in braces, as in `\b{start}`. A brace that holds no letter
belongs to a repetition instead. -/
def readWordPlace (flags : Flags) (t : Text) : Option (Assertion × Text) :=
  match t with
  | '{' :: rest =>
    match flags.skip rest with
    | [] => none
    | c :: _ =>
      if !isKindChar c then some (.wordBoundary flags.unicode, t)
      else
        match readKind flags [] rest.length rest with
        | ("start", '}' :: rest) => some (.wordStart flags.unicode, rest)
        | ("end", '}' :: rest) => some (.wordEnd flags.unicode, rest)
        | ("start-half", '}' :: rest) => some (.wordStartHalf flags.unicode, rest)
        | ("end-half", '}' :: rest) => some (.wordEndHalf flags.unicode, rest)
        | _ => none
  | _ => some (.wordBoundary flags.unicode, t)

/-- Reads what follows a backslash. -/
def readEscape (flags : Flags) : Text → Option (Primitive × Text)
  | [] => none
  | c :: rest =>
    let named (complement : Bool) (whole ascii : CharClass) : Option (Primitive × Text) :=
      (namedClass flags complement whole ascii).map (·, rest)
    match c with
    | 'x' => readHexByte flags rest
    | 'u' => readHex flags 4 rest
    | 'U' => readHex flags 8 rest
    | 'd' => named false .digit .asciiDigit
    | 'D' => named true .digit .asciiDigit
    | 's' => named false .space .asciiSpace
    | 'S' => named true .space .asciiSpace
    | 'w' => named false .word .asciiWord
    | 'W' => named true .word .asciiWord
    | 'a' => some (.literal '\x07', rest)
    | 'f' => some (.literal '\x0c', rest)
    | 't' => some (.literal '\t', rest)
    | 'n' => some (.literal '\n', rest)
    | 'r' => some (.literal '\r', rest)
    | 'v' => some (.literal '\x0b', rest)
    | 'A' => some (.look .textStart, rest)
    | 'z' => some (.look .textEnd, rest)
    | 'b' => (readWordPlace flags rest).map fun (a, rest) => (.look a, rest)
    | 'B' => some (.look (.noWordBoundary flags.unicode), rest)
    | '<' => some (.look (.wordStart flags.unicode), rest)
    | '>' => some (.look (.wordEnd flags.unicode), rest)
    | _ => if isEscapable c then some (.literal c, rest) else none

/-! ## Bracketed classes -/

/-- The operations between the parts of a bracketed class. -/
inductive ClassOp where
  | inter
  | diff
  | symmDiff
  deriving DecidableEq, Repr

/-- A class as it stands in the pattern, complemented or not. -/
def closeClass (flags : Flags) (complement : Bool) (c : CharClass) : Option CharClass :=
  if complement then
    if flags.unicode then some (.complement (flags.fold c)) else none
  else some (flags.fold c)

def ClassOp.apply (op : ClassOp) (flags : Flags) (left right : CharClass) : CharClass :=
  match op with
  | .inter => .inter (flags.fold left) (flags.fold right)
  | .diff => .diff (flags.fold left) (flags.fold right)
  | .symmDiff => .symmDiff (flags.fold left) (flags.fold right)

/-- The part of a class in front of the last operation, and that operation. -/
abbrev PendingOp := Option (CharClass × ClassOp)

/-- Applies the operation that waits for its right side. -/
def applyPending (flags : Flags) (pending : PendingOp) (right : CharClass) : CharClass :=
  match pending with
  | none => right
  | some (left, op) => op.apply flags left right

/-- Reads a class like `:alpha:]` after its bracket. -/
def readNamedClass? (flags : Flags) (t : Text) : Option (CharClass × Text) :=
  match t with
  | ':' :: t =>
    let (complement, t) : Bool × Text :=
      match t with
      | '^' :: t => (true, t)
      | _ => (false, t)
    match t.dropWhile (· != ':') with
    | ':' :: ']' :: rest => do
      let c ← CharClass.ofName? (String.ofList (t.takeWhile (· != ':')))
      return (← closeClass flags complement c, rest)
    | _ => none
  | _ => none

/-- Reads one end of a range, or a single item. A class holds no character that is out of reach. -/
def readClassItem (flags : Flags) (t : Text) : Option (Primitive × Text) :=
  let read :=
    match t with
    | [] => none
    | '\\' :: rest => readEscape flags rest
    | c :: rest => some (.literal c, rest)
  read.filter fun (item, _) => item.isWithin flags

/-- The class of a single item. A place in the text is none. -/
def itemClass? : Primitive → Option CharClass
  | .literal c => some (.single c)
  | .named c => some c
  | .look _ => none

/-- Reads an item or a range of a bracketed class. A hyphen in front of the closing bracket or of
another hyphen makes no range. -/
def readClassRange (flags : Flags) (t : Text) : Option (CharClass × Text) :=
  match readClassItem flags t with
  | none => none
  | some (first, t) =>
    match flags.skip t with
    | [] => none
    | '-' :: rest =>
      match flags.skip rest with
      | [] => none
      | c :: after =>
        if c = ']' || c = '-' then (itemClass? first).map (·, '-' :: rest)
        else
          match first, readClassItem flags (c :: after) with
          | .literal low, some (.literal high, rest) =>
            if low ≤ high then some (.range low.toNat high.toNat, rest) else none
          | _, _ => none
    | t => (itemClass? first).map (·, t)

/-- Reads the hyphens that a class starts with. -/
def readHyphens (flags : Flags) (c : CharClass) : Nat → Text → CharClass × Text
  | 0, t => (c, t)
  | fuel + 1, t =>
    match t with
    | '-' :: rest => readHyphens flags (.union c (.single '-')) fuel (flags.skip rest)
    | t => (c, t)

/-- Reads what a class may start with: a caret that complements it, and then hyphens or a closing
bracket that stand for themselves. -/
def readClassStart (flags : Flags) (t : Text) : Bool × CharClass × Text :=
  let (complement, t) : Bool × Text :=
    match flags.skip t with
    | '^' :: rest => (true, flags.skip rest)
    | t => (false, t)
  match t with
  | ']' :: rest => (complement, .single ']', flags.skip rest)
  | t => (complement, readHyphens flags .none t.length t)

mutual

/-- Reads a class whose opening bracket has been read. -/
def readClass (flags : Flags) : Nat → Text → Option (CharClass × Text)
  | 0, _ => none
  | fuel + 1, t =>
    let (complement, start, t) := readClassStart flags t
    match readClassBody flags none start fuel t with
    | none => none
    | some (c, t) => (closeClass flags complement c).map (·, t)

/-- Reads up to the closing bracket. -/
def readClassBody (flags : Flags) (pending : PendingOp) (c : CharClass) :
    Nat → Text → Option (CharClass × Text)
  | 0, _ => none
  | fuel + 1, t =>
    match flags.skip t with
    | [] => none
    | ']' :: rest => some (applyPending flags pending c, rest)
    | '&' :: '&' :: rest =>
      readClassBody flags (some (applyPending flags pending c, .inter)) .none fuel rest
    | '-' :: '-' :: rest =>
      readClassBody flags (some (applyPending flags pending c, .diff)) .none fuel rest
    | '~' :: '~' :: rest =>
      readClassBody flags (some (applyPending flags pending c, .symmDiff)) .none fuel rest
    | '[' :: rest =>
      match readNamedClass? flags rest with
      | some (named, rest) => readClassBody flags pending (.union c named) fuel rest
      | none =>
        match readClass flags fuel rest with
        | none => none
        | some (nested, rest) => readClassBody flags pending (.union c nested) fuel rest
    | t =>
      match readClassRange flags t with
      | none => none
      | some (item, rest) => readClassBody flags pending (.union c item) fuel rest

end

/-! ## Groups and repetitions -/

/-- Reads flags up to the colon or parenthesis that ends them. No flag comes twice, and a minus,
which also comes but once, has a flag behind it. -/
def readFlags (flags : Flags) (used : List Char) (negated : Bool) (last : Char) :
    Text → Option (Flags × Bool × Char × Text)
  | [] => none
  | c :: rest =>
    if c = ':' || c = ')' then
      if last = '-' then none else some (flags, used.isEmpty, c, rest)
    else if used.contains c then none
    else if c = '-' then readFlags flags (c :: used) true c rest
    else
      match flags.set? c (!negated) with
      | none => none
      | some flags => readFlags flags (c :: used) negated c rest

/-- A name starts with a letter or an underscore. -/
def isNameStart (c : Char) : Bool :=
  c == '_' || isLetter c

def isNameChar (c : Char) : Bool :=
  c == '_' || c == '.' || c == '[' || c == ']' || isLetterOrNumber c

/-- Reads the name of a group up to the angle that ends it. -/
def readName (t : Text) : Option (String × Text) :=
  match t.takeWhile (· != '>'), t.dropWhile (· != '>') with
  | c :: name, _ :: rest =>
    if isNameStart c && name.all isNameChar then some (String.ofList (c :: name), rest) else none
  | _, _ => none

/-- What a parenthesis opens. -/
inductive Opening where
  | directive (flags : Flags)
  | group (flags : Flags)
  | capture (name : Option String)

/-- Reads what stands behind an opening parenthesis. A question mark starts a name or flags, and
nothing that looks around. -/
def readOpening (flags : Flags) (t : Text) : Option (Opening × Text) :=
  match flags.skip t with
  | '?' :: 'P' :: '<' :: rest => (readName rest).map fun (name, rest) => (.capture name, rest)
  | '?' :: '<' :: '=' :: _ => none
  | '?' :: '<' :: '!' :: _ => none
  | '?' :: '<' :: rest => (readName rest).map fun (name, rest) => (.capture name, rest)
  | '?' :: rest =>
    match readFlags flags [] false ':' rest with
    | none => none
    | some (set, unchanged, c, rest) =>
      if c = ':' then some (.group set, rest)
      else if unchanged then none
      else some (.directive set, rest)
  | t => some (.capture none, t)

/-- The greatest bound of a repetition. -/
def maxCount : Nat := Nat.pow 2 32 - 1

/-- Reads the digits of a bound, with blanks between them where the flags say so. -/
def readCountDigits (flags : Flags) (count : Option Nat) : Nat → Text → Option Nat × Text
  | 0, t => (count, t)
  | fuel + 1, t =>
    match t with
    | c :: rest =>
      if c.isDigit then
        readCountDigits flags (some (10 * count.getD 0 + (c.toNat - '0'.toNat))) fuel
          (flags.skip rest)
      else (count, t)
    | [] => (count, t)

/-- Reads a bound with blanks around it. It may be missing, but not too great. -/
def readCount (flags : Flags) (t : Text) : Option (Option Nat × Text) :=
  let t := t.dropWhile isBlank
  let (count, rest) := readCountDigits flags none t.length t
  let rest := flags.skip (rest.dropWhile isBlank)
  match count with
  | none => some (none, rest)
  | some n => if n ≤ maxCount then some (some n, rest) else none

/-- The bounds of a repetition, after its opening brace. -/
def readBounds (flags : Flags) (t : Text) : Option ((Nat × Option Nat) × Text) := do
  let (least, t) ← readCount flags (flags.skip t)
  let least ← least
  match t with
  | '}' :: rest => return ((least, some least), rest)
  | ',' :: rest =>
    match flags.skip rest with
    | '}' :: rest => return ((least, none), rest)
    | rest =>
      let (most, rest) ← readCount flags rest
      let most ← most
      match rest with
      | '}' :: rest => if least ≤ most then return ((least, some most), rest) else none
      | _ => none
  | _ => none

/-! ## The whole pattern -/

/-- A group that is still open: what was read in front of it, and the flags outside of it. -/
structure OpenGroup where
  opening : Expr → Expr
  items : List Expr
  branches : List Expr
  flags : Flags

/-- How far a pattern has been read. Items and branches are kept in reverse. -/
structure ReadState where
  flags : Flags
  items : List Expr
  branches : List Expr
  groups : List OpenGroup

namespace ReadState

def start : ReadState :=
  ⟨{}, [], [], []⟩

/-- What has been read of the group at hand. -/
def expr (s : ReadState) : Expr :=
  .choice (.concat s.items.reverse :: s.branches).reverse

def push (s : ReadState) (e : Expr) : ReadState :=
  { s with items := e :: s.items }

def enter (s : ReadState) (opening : Expr → Expr) (flags : Flags) : ReadState :=
  ⟨flags, [], [], ⟨opening, s.items, s.branches, s.flags⟩ :: s.groups⟩

/-- Closes the innermost group. -/
def close? (s : ReadState) : Option ReadState :=
  match s.groups with
  | [] => none
  | g :: groups => some ⟨g.flags, g.opening s.expr :: g.items, g.branches, groups⟩

/-- Starts the next branch of a choice. -/
def branch (s : ReadState) : ReadState :=
  { s with items := [], branches := .concat s.items.reverse :: s.branches }

/-- Repeats the last item. There has to be one that is no directive. -/
def repeat? (s : ReadState) (least : Nat) (most : Option Nat) (greedy : Bool) :
    Option ReadState :=
  match s.items with
  | [] => none
  | .directive :: _ => none
  | e :: items =>
    some { s with items := .repeated least most (greedy != s.flags.swapGreed) e :: items }

/-- A character as the flags take it. -/
def literal (s : ReadState) (c : Char) : Expr :=
  .set (s.flags.foldChar c)

/-- Any character but a line break, or any character at all. -/
def dot? (s : ReadState) : Option Expr :=
  if !s.flags.unicode then none
  else if s.flags.dotMatchesBreak then some (.set (.complement .none))
  else if s.flags.crLf then some (.set (.complement (.ofRanges [(0x0A, 0x0A), (0x0D, 0x0D)])))
  else some (.set (.complement (.single '\n')))

def caret (s : ReadState) : Assertion :=
  if !s.flags.multiLine then .textStart
  else if s.flags.crLf then .lineStartCrLf
  else .lineStart

def dollar (s : ReadState) : Assertion :=
  if !s.flags.multiLine then .textEnd
  else if s.flags.crLf then .lineEndCrLf
  else .lineEnd

end ReadState

/-- Reads the question mark that makes a repetition prefer fewer rounds. -/
def readLazy (t : Text) : Bool × Text :=
  match t with
  | '?' :: rest => (false, rest)
  | t => (true, t)

/-- Reads one item of a pattern that does not end here. -/
def readItem (s : ReadState) : Text → Option (ReadState × Text)
  | [] => none
  | '(' :: rest =>
    match readOpening s.flags rest with
    | none => none
    | some (.directive flags, rest) => some ({ s.push .directive with flags := flags }, rest)
    | some (.group flags, rest) => some (s.enter .group flags, rest)
    | some (.capture name, rest) => some (s.enter (.capture name) s.flags, rest)
  | ')' :: rest => s.close?.map (·, rest)
  | '|' :: rest => some (s.branch, rest)
  | '[' :: rest =>
    (readClass s.flags (rest.length + 2) rest).map fun (c, rest) => (s.push (.set c), rest)
  | '?' :: rest =>
    let (greedy, rest) := readLazy rest
    (s.repeat? 0 (some 1) greedy).map (·, rest)
  | '*' :: rest =>
    let (greedy, rest) := readLazy rest
    (s.repeat? 0 none greedy).map (·, rest)
  | '+' :: rest =>
    let (greedy, rest) := readLazy rest
    (s.repeat? 1 none greedy).map (·, rest)
  | '{' :: rest =>
    match readBounds s.flags rest with
    | none => none
    | some ((least, most), rest) =>
      let (greedy, rest) := readLazy (s.flags.skip rest)
      (s.repeat? least most greedy).map (·, rest)
  | '\\' :: rest =>
    match readEscape s.flags rest with
    | none => none
    | some (.literal c, rest) => some (s.push (s.literal c), rest)
    | some (.named c, rest) => some (s.push (.set c), rest)
    | some (.look a, rest) => some (s.push (.look a), rest)
  | '.' :: rest => s.dot?.map fun e => (s.push e, rest)
  | '^' :: rest => some (s.push (.look s.caret), rest)
  | '$' :: rest => some (s.push (.look s.dollar), rest)
  | c :: rest => some (s.push (s.literal c), rest)

/-- Reads item after item to the end of the pattern, where no group may be open. -/
def readItems (s : ReadState) : Nat → Text → Option Expr
  | 0, _ => none
  | fuel + 1, t =>
    match s.flags.skip t with
    | [] => if s.groups.isEmpty then some s.expr else none
    | t =>
      match readItem s t with
      | none => none
      | some (s, rest) => readItems s fuel rest

/-- The greatest depth of a pattern. -/
def maxDepth : Nat := 250

/-- The greatest weight of a pattern. -/
def maxWeight : Nat := 10 * Nat.pow 2 20

/-- Reads a pattern. Its groups have different names, and it is neither too deep nor too large. -/
def readExpr (pattern : Text) : Option Expr :=
  match readItems .start (pattern.length + 1) pattern with
  | none => none
  | some e =>
    if e.names.Nodup ∧ e.depth ≤ maxDepth ∧ e.weight ≤ maxWeight then some e else none

end Excerpt.Pattern
