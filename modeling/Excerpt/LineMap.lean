/-! # Line maps

A line map tells for every line of a synthetic document where it came from. -/

namespace Excerpt

/-- The host line, counted from 1, behind a synthetic line, and the columns removed from it. -/
structure LineOrigin where
  hostLine : Nat
  indentColumns : Nat
  deriving DecidableEq, Repr

/-- The origins of the synthetic lines 1, 2, … in order. -/
structure LineMap where
  origins : List LineOrigin
  deriving DecidableEq, Repr

namespace LineMap

def empty : LineMap :=
  ⟨[]⟩

/-- The number of mapped lines. -/
def size (map : LineMap) : Nat :=
  map.origins.length

def isEmpty (map : LineMap) : Bool :=
  map.origins.isEmpty

/-- Maps the next synthetic line and tells its number. -/
def push (map : LineMap) (origin : LineOrigin) : Nat × LineMap :=
  (map.size + 1, ⟨map.origins ++ [origin]⟩)

/-- Maps the next synthetic lines, one after the other. -/
def pushAll (map : LineMap) (origins : List LineOrigin) : LineMap :=
  origins.foldl (fun map origin => (map.push origin).2) map

/-- The origin of a synthetic line. Lines count from 1, so line 0 has none. -/
def get? (map : LineMap) : Nat → Option LineOrigin
  | 0 => none
  | index + 1 => map.origins[index]?

/-- Every synthetic line with its origin. -/
def toList (map : LineMap) : List (Nat × LineOrigin) :=
  map.origins.zipIdx.map fun (origin, index) => (index + 1, origin)

@[simp] theorem size_push (map : LineMap) (origin : LineOrigin) :
    (map.push origin).2.size = map.size + 1 := by
  simp [push, size]

theorem get?_push_self (map : LineMap) (origin : LineOrigin) :
    (map.push origin).2.get? (map.push origin).1 = some origin := by
  simp [push, size, get?]

theorem pushAll_eq (map : LineMap) (origins : List LineOrigin) :
    map.pushAll origins = ⟨map.origins ++ origins⟩ := by
  unfold pushAll
  induction origins generalizing map with
  | nil => simp
  | cons origin rest ih =>
    rw [List.foldl_cons, ih]
    simp [push]

theorem exists_of_get?_eq_some {map : LineMap} {number : Nat} {origin : LineOrigin}
    (h : map.get? number = some origin) :
    ∃ i, number = i + 1 ∧ map.origins[i]? = some origin := by
  cases number with
  | zero => simp [get?] at h
  | succ i => exact ⟨i, rfl, h⟩

end LineMap

end Excerpt
