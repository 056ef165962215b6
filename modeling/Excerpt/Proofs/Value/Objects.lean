import Excerpt.Proofs.Json.Normal

/-! # Records as objects

An object has no order and no key twice. Among the records it is the one with sorted members, and
sorted members are the same as soon as the same values are found in them. -/

namespace Excerpt.Value

/-! ## Members by their keys -/

theorem lookup_filter_key (q : String → Bool) (members : List (String × Value)) (key : String) :
    (members.filter fun m => q m.1).lookup key = if q key then members.lookup key else none := by
  induction members with
  | nil => simp
  | cons m rest ih =>
    rw [List.filter_cons]
    by_cases hkey : key = m.1
    · subst hkey
      by_cases hq : q m.1
      · simp [hq, lookup_cons_eq_ite]
      · simp [hq, ih]
    · by_cases hq : q m.1 <;> simp [hq, lookup_cons_eq_ite, hkey, ih]

theorem mem_of_lookup_eq_some {members : List (String × Value)} {key : String} {v : Value}
    (h : members.lookup key = some v) : (key, v) ∈ members := by
  obtain ⟨front, back, rfl, -⟩ := List.lookup_eq_some_iff.mp h
  simp

theorem lookup_eq_none_of_forall_ne {members : List (String × Value)} {key : String}
    (h : ∀ m ∈ members, key ≠ m.1) : members.lookup key = none := by
  rw [List.lookup_eq_none_iff]
  intro m hm
  simpa using h m hm

theorem Sorted.lookup_rest {m : String × Value} {rest : List (String × Value)}
    (h : Sorted (m :: rest)) : rest.lookup m.1 = none := by
  apply lookup_eq_none_of_forall_ne
  intro other hother heq
  have hlt := (List.pairwise_cons.mp h).1 other hother
  exact String.lt_irrefl m.1 (heq ▸ hlt)

/-- No key that is found stands in front of the first one. -/
theorem Sorted.not_lt_of_lookup {m : String × Value} {rest : List (String × Value)}
    (h : Sorted (m :: rest)) {key : String} {v : Value} (hkey : (m :: rest).lookup key = some v) :
    ¬ key < m.1 := by
  intro hlt
  rcases List.mem_cons.mp (mem_of_lookup_eq_some hkey) with rfl | hmem
  · exact String.lt_irrefl key hlt
  · exact String.lt_asymm hlt ((List.pairwise_cons.mp h).1 _ hmem)

/-- Sorted members are determined by what is found in them. -/
theorem Sorted.ext {a b : List (String × Value)} (ha : Sorted a) (hb : Sorted b)
    (h : ∀ key, a.lookup key = b.lookup key) : a = b := by
  induction a generalizing b with
  | nil =>
    cases b with
    | nil => rfl
    | cons m rest =>
      have hm := h m.1
      simp [lookup_cons_eq_ite] at hm
  | cons m rest ih =>
    cases b with
    | nil =>
      have hm := h m.1
      simp [lookup_cons_eq_ite] at hm
    | cons other others =>
      have hm : (m :: rest).lookup m.1 = some m.2 := by simp [lookup_cons_eq_ite]
      have hother : (other :: others).lookup other.1 = some other.2 := by simp [lookup_cons_eq_ite]
      have hkey : m.1 = other.1 :=
        eq_of_not_lt (hb.not_lt_of_lookup ((h m.1).symm.trans hm))
          (ha.not_lt_of_lookup ((h other.1).trans hother))
      have hvalue : m.2 = other.2 := by
        rw [h m.1, hkey, hother] at hm
        exact (Option.some.inj hm).symm
      obtain rfl : m = other := Prod.ext hkey hvalue
      congr 1
      apply ih (List.pairwise_cons.mp ha).2 (List.pairwise_cons.mp hb).2
      intro key
      by_cases hfirst : key = m.1
      · rw [hfirst, ha.lookup_rest, hb.lookup_rest]
      · simpa [lookup_cons_eq_ite, hfirst] using h key

/-! ## Changing members -/

/-- Gives each member a new value by its key, or leaves it out. -/
def editMembers (edit : String → Value → Option Value) (members : List (String × Value)) :
    List (String × Value) :=
  members.filterMap fun m => (edit m.1 m.2).map (m.1, ·)

/-- Adds a member that is missing. -/
def addMissing (key : String) (v : Value) (members : List (String × Value)) :
    List (String × Value) :=
  if (members.lookup key).isNone then insertMember key v members else members

theorem editMembers_cons (edit : String → Value → Option Value) (m : String × Value)
    (rest : List (String × Value)) :
    editMembers edit (m :: rest) =
      ((edit m.1 m.2).map (m.1, ·)).toList ++ editMembers edit rest := by
  rw [editMembers, List.filterMap_cons]
  cases edit m.1 m.2 <;> rfl

theorem Sorted.editMembers {members : List (String × Value)} (h : Sorted members)
    (edit : String → Value → Option Value) : Sorted (Value.editMembers edit members) := by
  refine List.Pairwise.filterMap _ ?_ h
  intro a b hlt m hm n hn
  obtain ⟨v, -, rfl⟩ := Option.map_eq_some_iff.mp hm
  obtain ⟨w, -, rfl⟩ := Option.map_eq_some_iff.mp hn
  exact hlt

theorem Sorted.lookup_editMembers {members : List (String × Value)} (h : Sorted members)
    (edit : String → Value → Option Value) (key : String) :
    (Value.editMembers edit members).lookup key = (members.lookup key).bind (edit key) := by
  induction members with
  | nil => rfl
  | cons m rest ih =>
    have hrest := ih (List.pairwise_cons.mp h).2
    rw [editMembers_cons, List.lookup_append, hrest, lookup_cons_eq_ite]
    by_cases hkey : key = m.1
    · subst hkey
      rw [h.lookup_rest, if_pos rfl]
      cases hedit : edit m.1 m.2 <;> simp [hedit]
    · rw [if_neg hkey]
      cases edit m.1 m.2 <;> simp [lookup_cons_eq_ite, hkey]

theorem Sorted.addMissing {members : List (String × Value)} (h : Sorted members) (key : String)
    (v : Value) : Sorted (Value.addMissing key v members) := by
  unfold Value.addMissing
  split
  · exact h.insertMember key v
  · exact h

theorem lookup_addMissing (key k : String) (v : Value) (members : List (String × Value)) :
    (addMissing key v members).lookup k =
      (members.lookup k).or (if k = key then some v else none) := by
  unfold addMissing
  by_cases hk : k = key
  · subst hk
    cases hlookup : members.lookup k <;> simp [hlookup, lookup_insertMember]
  · split <;> simp [hk, lookup_insertMember]

/-! ## Records within a value -/

mutual

/-- The value with the members of all its records sorted. -/
def sortRecords : Value → Value
  | .null => .null
  | .bool b => .bool b
  | .number n => .number n
  | .text s => .text s
  | .list items => .list (sortRecordsOfItems items)
  | .record members => .record (sortMembers (sortRecordsOfMembers members))

def sortRecordsOfItems : List Value → List Value
  | [] => []
  | v :: rest => sortRecords v :: sortRecordsOfItems rest

def sortRecordsOfMembers : List (String × Value) → List (String × Value)
  | [] => []
  | (key, v) :: rest => (key, sortRecords v) :: sortRecordsOfMembers rest

end

theorem sortRecords_list (items : List Value) :
    sortRecords (.list items) = .list (items.map sortRecords) := by
  rw [sortRecords]
  congr 1
  induction items with
  | nil => rfl
  | cons v rest ih => rw [sortRecordsOfItems, ih, List.map_cons]

theorem sortRecords_record (members : List (String × Value)) :
    sortRecords (.record members) =
      .record (sortMembers (members.map fun m => (m.1, sortRecords m.2))) := by
  rw [sortRecords]
  congr 2
  induction members with
  | nil => rfl
  | cons m rest ih => rw [sortRecordsOfMembers, ih, List.map_cons]

/-- The records that a reader returns are sorted. -/
theorem Normal.sortRecords_eq {depth : Nat} {v : Value} (h : v.Normal depth) :
    v.sortRecords = v := by
  induction h with
  | null => rfl
  | bool => rfl
  | number => rfl
  | text => rfl
  | list _ ih => rw [sortRecords_list, List.map_congr_left ih, List.map_id']
  | record hsorted _ ih =>
    rw [sortRecords_record, List.map_congr_left fun m hm => by rw [ih m hm], List.map_id',
      hsorted.sortMembers_eq]

end Excerpt.Value
