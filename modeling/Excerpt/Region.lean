import Excerpt.Error
import Excerpt.Pattern.Matching
import Excerpt.TagPatterns

/-! # Snippet regions of a host text -/

namespace Excerpt

open Pattern (Cursor Match Node)

/-- A snippet as it stands in the host: its opening tag, its body, and the byte offset at which its
region starts. -/
structure Snippet where
  openTag : Text
  body : Text
  offset : Nat
  deriving DecidableEq, Repr

/-- The byte offset of the body, which follows the opening tag. -/
def Snippet.bodyOffset (s : Snippet) : Nat :=
  s.offset + s.openTag.byteLength

/-- A region of the host: where it starts and stops, and the tag and body in it. -/
structure Region where
  start : Cursor
  stop : Cursor
  openTag : Text
  body : Text
  deriving DecidableEq, Repr

namespace Region

/-- The region of a match in which both groups took part. -/
def ofMatch? (m : Match) : Option Region := do
  let openTag ← m.group? "open"
  let body ← m.group? "body"
  return ⟨m.start, m.stop, openTag, body⟩

def isEmpty (r : Region) : Bool :=
  r.start.index == r.stop.index

/-- Whether the region stands directly behind a character of the guard. -/
def isGuarded (guard : Text) (r : Region) : Bool :=
  match r.start.before with
  | [] => false
  | c :: _ => guard.contains c

/-- Where to look for the next region. Behind an empty one that is a character further on. -/
def resume? (r : Region) : Option Cursor :=
  if r.isEmpty then r.stop.next? else some r.stop

def snippet (r : Region) : Snippet :=
  ⟨r.openTag, r.body, r.start.offset⟩

end Region

/-- Finds one region after the other. A guarded region is passed over, and the search goes on one
character behind its start. -/
def scanRegions (find : Cursor → Option Region) (guard : Text) : Nat → Cursor → List Region
  | 0, _ => []
  | fuel + 1, c =>
    match find c with
    | none => []
    | some r =>
      if r.isGuarded guard then
        match r.start.next? with
        | none => []
        | some c => scanRegions find guard fuel c
      else
        r :: match r.resume? with
          | none => []
          | some c => scanRegions find guard fuel c

/-- Finds the regions of a host text with a pattern that is ready for matching. -/
structure RegionFinder where
  pattern : Node
  guard : Text
  deriving DecidableEq, Repr

namespace RegionFinder

def ofTags (tags : TagPatterns) : Except Error RegionFinder :=
  match Pattern.compile tags.regionPattern.toList with
  | some pattern => .ok ⟨pattern, tags.guard.toList⟩
  | none => .error .pattern

/-- The first region at or behind a place. A match without an opening tag or a body ends the
search. -/
def find (finder : RegionFinder) (c : Cursor) : Option Region :=
  (finder.pattern.search c).bind Region.ofMatch?

/-- The regions of a host text from left to right. Every search starts behind the one before, so
there are not more of them than places. -/
def regions (finder : RegionFinder) (host : Text) : List Region :=
  scanRegions finder.find finder.guard (host.length + 1) (.start host)

/-- The snippets of a host text from left to right. -/
def snippets (finder : RegionFinder) (host : Text) : List Snippet :=
  (finder.regions host).map Region.snippet

end RegionFinder

end Excerpt
