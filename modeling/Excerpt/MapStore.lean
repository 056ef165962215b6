import Excerpt.DocumentId
import Excerpt.LineMap

/-! # Line maps by document

A store holds at most one line map for a document. A new map replaces the old one in its place,
so the documents stay in the order in which they first came. -/

namespace Excerpt

structure MapStore where
  entries : List (DocumentId × LineMap)
  deriving DecidableEq, Repr

namespace MapStore

def empty : MapStore :=
  ⟨[]⟩

/-- The line map of a document. An empty map belongs to a document without snippets, `none` to
one that never came. -/
def get? (store : MapStore) (document : DocumentId) : Option LineMap :=
  store.entries.lookup document

def contains (store : MapStore) (document : DocumentId) : Bool :=
  (store.get? document).isSome

/-- Replaces the map of a document in place, or adds it at the end. -/
def insertEntry (document : DocumentId) (map : LineMap) :
    List (DocumentId × LineMap) → List (DocumentId × LineMap)
  | [] => [(document, map)]
  | (other, old) :: rest =>
    if document = other then (document, map) :: rest
    else (other, old) :: insertEntry document map rest

def insert (store : MapStore) (document : DocumentId) (map : LineMap) : MapStore :=
  ⟨insertEntry document map store.entries⟩

/-- Stores a map and gives back the one it replaced. -/
def put (store : MapStore) (document : DocumentId) (map : LineMap) : Option LineMap × MapStore :=
  (store.get? document, store.insert document map)

/-- The documents in the order in which they first came. -/
def documents (store : MapStore) : List DocumentId :=
  store.entries.map Prod.fst

def size (store : MapStore) : Nat :=
  store.entries.length

def isEmpty (store : MapStore) : Bool :=
  store.entries.isEmpty

theorem lookup_insertEntry (document other : DocumentId) (map : LineMap)
    (entries : List (DocumentId × LineMap)) :
    (insertEntry document map entries).lookup other =
      if other = document then some map else entries.lookup other := by
  induction entries with
  | nil =>
    by_cases h : other = document
    · simp [insertEntry, h]
    · have hne : (other == document) = false := by simpa using h
      simp [insertEntry, List.lookup_cons, h, hne]
  | cons entry rest ih =>
    obtain ⟨name, old⟩ := entry
    by_cases hd : document = name
    · subst hd
      by_cases h : other = document
      · simp [insertEntry, h]
      · have hne : (other == document) = false := by simpa using h
        simp [insertEntry, List.lookup_cons, h, hne]
    · by_cases h : other = name
      · subst h
        simp [insertEntry, hd, Ne.symm hd]
      · have hne : (other == name) = false := by simpa using h
        simp [insertEntry, hd, List.lookup_cons, hne, ih]

/-- A store answers with the last map put for a document. -/
theorem get?_insert (store : MapStore) (document other : DocumentId) (map : LineMap) :
    (store.insert document map).get? other =
      if other = document then some map else store.get? other :=
  lookup_insertEntry document other map store.entries

theorem keys_insertEntry (document : DocumentId) (map : LineMap)
    (entries : List (DocumentId × LineMap)) :
    (insertEntry document map entries).map Prod.fst =
      if document ∈ entries.map Prod.fst then entries.map Prod.fst
      else entries.map Prod.fst ++ [document] := by
  induction entries with
  | nil => simp [insertEntry]
  | cons entry rest ih =>
    obtain ⟨name, old⟩ := entry
    by_cases hd : document = name
    · simp [insertEntry, hd]
    · simp only [insertEntry, hd, if_false, List.map_cons, ih, List.mem_cons, false_or]
      split <;> simp

/-- A document that came before stays where it is, and a new one comes last. -/
theorem documents_insert (store : MapStore) (document : DocumentId) (map : LineMap) :
    (store.insert document map).documents =
      if document ∈ store.documents then store.documents else store.documents ++ [document] :=
  keys_insertEntry document map store.entries

end MapStore

end Excerpt
