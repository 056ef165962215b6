import Excerpt.Value

/-! # Tag patterns

The patterns have keys, but they may also be given by position. A list with more items than there
are patterns is refused in every format; that some format leaves the rest of a list unread is not
modelled. -/

namespace Excerpt

/-- The patterns of a snippet region: its opening tag, its body and its closing tag. A region does
not start directly behind a character of the guard. -/
structure TagPatterns where
  opening : String := "<style[^>]*>"
  closing : String := "</\\s*?style>"
  body : String := "[\\s\\S]*?"
  guard : String := "\"'`"
  deriving DecidableEq, Repr

namespace TagPatterns

/-- The pattern of a whole region, with its opening tag and its body as named groups. -/
def regionPattern (tags : TagPatterns) : String :=
  "(?P<open>" ++ tags.opening ++ ")(?P<body>" ++ tags.body ++ ")(?:" ++ tags.closing ++ ")"

/-- The keys of the patterns, in the order in which a list has them. -/
def keys : List String :=
  ["start", "end", "body", "guard"]

/-- The patterns by their keys. They are written as a record, or as a list without the keys, which
may end early but not go on behind the last one. -/
def members? (v : Value) : Option (List (String × Value)) :=
  match v with
  | .list items => if items.length ≤ keys.length then some (keys.zip items) else none
  | v => v.toRecord?

/-- Missing patterns are the default ones. -/
def ofValue? (v : Value) : Option TagPatterns := do
  let members ← members? v
  let default : TagPatterns := {}
  let opening ← Value.withDefault? Value.toText? default.opening "start" members
  let closing ← Value.withDefault? Value.toText? default.closing "end" members
  let body ← Value.withDefault? Value.toText? default.body "body" members
  let guard ← Value.withDefault? Value.toText? default.guard "guard" members
  return ⟨opening, closing, body, guard⟩

def toValue (tags : TagPatterns) : Value :=
  .record [("start", .text tags.opening), ("end", .text tags.closing), ("body", .text tags.body),
    ("guard", .text tags.guard)]

end TagPatterns

end Excerpt
