import Excerpt.Value

/-! # Tables in TOML

A table is defined by its header, by a dotted key, or only by being named inside the header of
another table. What may still be added to it depends on that. -/

namespace Excerpt.Toml

/-- What a key stands for. A table is implicit as long as no header has defined it, and dotted when
a dotted key did. -/
inductive Item where
  | value (v : Value)
  | table (implicit dotted : Bool) (members : List (String × Item))
  | tables (each : List (List (String × Item)))

abbrev Members := List (String × Item)

mutual

def Item.toValue : Item → Value
  | .value v => v
  | .table _ _ members => .record (Value.sortMembers (memberValues members))
  | .tables each => .list (tableValues each)

def memberValues : List (String × Item) → List (String × Value)
  | [] => []
  | (key, item) :: rest => (key, item.toValue) :: memberValues rest

def tableValues : List (List (String × Item)) → List Value
  | [] => []
  | members :: rest => .record (Value.sortMembers (memberValues members)) :: tableValues rest

end

namespace Members

def toValue (members : Members) : Value :=
  .record (Value.sortMembers (memberValues members))

/-- Replaces the item of a key, or adds it. -/
def put (key : String) (item : Item) : Members → Members
  | [] => [(key, item)]
  | (other, old) :: rest =>
    if key = other then (key, item) :: rest else (other, old) :: put key item rest

/-- Changes the table at the end of a path. Missing tables on the way are added, dotted when the
path belongs to a dotted key. A dotted key does not go through a table that has a header. Of
several tables with one header the last one is meant. -/
def alter (dotted : Bool) (change : Bool → Members → Option Members) :
    List String → Bool → Members → Option Members
  | [], isDotted, members => change isDotted members
  | key :: path, _, members =>
    match members.lookup key with
    | none => do
      let added ← alter dotted change path dotted []
      return members.put key (.table true dotted added)
    | some (.value _) => none
    | some (.tables each) =>
      match each.reverse with
      | [] => none
      | last :: earlier => do
        let last ← alter dotted change path false last
        return members.put key (.tables (last :: earlier).reverse)
    | some (.table implicit isDotted inner) =>
      if dotted && !implicit then none
      else do
        let inner ← alter dotted change path isDotted inner
        return members.put key (.table implicit isDotted inner)

/-- Adds a value under a dotted key. Only tables that dotted keys defined can be reached by one,
and no key is defined twice. -/
def define (path : List String) (key : String) (v : Value) (members : Members) : Option Members :=
  members.alter true (fun isDotted inner =>
    if isDotted == path.isEmpty then none
    else if (inner.lookup key).isSome then none
    else some (inner.put key (.value v))) path false

/-- The item at the end of a path. -/
def itemAt (key : String) : List String → Members → Option Item
  | [], members => members.lookup key
  | first :: path, members =>
    match members.lookup first with
    | some (.table _ _ inner) => itemAt key path inner
    | some (.tables each) =>
      match each.getLast? with
      | some last => itemAt key path last
      | none => none
    | _ => none

end Members

/-- A header names a table, or the next one of several tables. -/
structure Header where
  path : List String
  key : String
  several : Bool

/-- A document while it is read: the tables that are complete, the header of the table at hand, and
the members of that table. -/
structure Document where
  complete : Members
  header : Option Header
  current : Members

namespace Document

def empty : Document :=
  ⟨[], none, []⟩

/-- Puts the table at hand where its header says. -/
def finish (d : Document) : Option Members :=
  match d.header with
  | none => some d.current
  | some h =>
    d.complete.alter false (fun _ parent =>
      if h.several then
        match parent.lookup h.key with
        | none => some (parent.put h.key (.tables [d.current]))
        | some (.tables each) => some (parent.put h.key (.tables (each ++ [d.current])))
        | some _ => none
      else some (parent.put h.key (.table false false d.current))) h.path false

/-- Completes the table at hand and starts the one of a header. A table has only one header; one
that is implicit so far keeps its members. -/
def start (d : Document) (h : Header) : Option Document := do
  let complete ← d.finish
  match complete.itemAt h.key h.path with
  | none => return ⟨complete, some h, []⟩
  | some (.tables _) => if h.several then return ⟨complete, some h, []⟩ else none
  | some (.table true false members) =>
    if h.several then none else return ⟨complete, some h, members⟩
  | some _ => none

/-- Adds a value under a dotted key to the table at hand. -/
def define (d : Document) (path : List String) (key : String) (v : Value) : Option Document := do
  return { d with current := ← d.current.define path key v }

def toValue? (d : Document) : Option Value :=
  d.finish.map Members.toValue

end Document

end Excerpt.Toml
