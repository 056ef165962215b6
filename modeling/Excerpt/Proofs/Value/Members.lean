import Excerpt.Value
import Mathlib.Data.List.Induction

/-! # Sorted members

Sorting puts the members of a record into the order of their keys. What stood there twice stays
with its last value, and sorted members stay as they are. -/

namespace Excerpt.Value

/-- The keys of the members increase. -/
def Sorted (members : List (String × Value)) : Prop :=
  members.Pairwise fun a b => a.1 < b.1

theorem insertMember_nil (key : String) (v : Value) : insertMember key v [] = [(key, v)] :=
  rfl

theorem insertMember_cons (key : String) (v : Value) (first : String × Value)
    (rest : List (String × Value)) :
    insertMember key v (first :: rest) =
      if key < first.1 then (key, v) :: first :: rest
      else if first.1 < key then first :: insertMember key v rest
      else (key, v) :: rest :=
  rfl

theorem eq_of_not_lt {a b : String} (hab : ¬ a < b) (hba : ¬ b < a) : a = b :=
  String.le_antisymm hba hab

theorem lookup_cons_eq_ite (m : String × Value) (rest : List (String × Value)) (key : String) :
    (m :: rest).lookup key = if key = m.1 then some m.2 else rest.lookup key := by
  rw [List.lookup_cons]
  by_cases h : key = m.1
  · simp [h]
  · rw [beq_false_of_ne h, if_neg h]

/-! ## One member -/

theorem mem_of_mem_insertMember {key : String} {v : Value} {members : List (String × Value)}
    {m : String × Value} (h : m ∈ insertMember key v members) : m = (key, v) ∨ m ∈ members := by
  induction members with
  | nil => exact .inl (List.mem_singleton.mp h)
  | cons first rest ih =>
    rw [insertMember_cons] at h
    split at h
    · simpa using h
    · split at h
      · rcases List.mem_cons.mp h with rfl | h
        · simp
        · exact (ih h).imp_right (List.mem_cons_of_mem first)
      · exact (List.mem_cons.mp h).imp_right (List.mem_cons_of_mem first)

theorem Sorted.insertMember {members : List (String × Value)} (h : Sorted members) (key : String)
    (v : Value) : Sorted (insertMember key v members) := by
  induction members with
  | nil => exact List.pairwise_singleton _ _
  | cons first rest ih =>
    obtain ⟨hfirst, hrest⟩ := List.pairwise_cons.mp h
    rw [insertMember_cons]
    split
    · rename_i hlt
      refine List.pairwise_cons.mpr ⟨fun m hm => ?_, h⟩
      rcases List.mem_cons.mp hm with rfl | hm
      · exact hlt
      · exact String.lt_trans hlt (hfirst m hm)
    · split
      · rename_i hlt
        refine List.pairwise_cons.mpr ⟨fun m hm => ?_, ih hrest⟩
        rcases mem_of_mem_insertMember hm with rfl | hm
        · exact hlt
        · exact hfirst m hm
      · rename_i hkey hother
        refine List.pairwise_cons.mpr ⟨fun m hm => ?_, hrest⟩
        rw [eq_of_not_lt hkey hother]
        exact hfirst m hm

theorem lookup_insertMember (key k : String) (v : Value) (members : List (String × Value)) :
    (insertMember key v members).lookup k = if k = key then some v else members.lookup k := by
  induction members with
  | nil => exact lookup_cons_eq_ite (key, v) [] k
  | cons first rest ih =>
    rw [insertMember_cons]
    split
    · exact lookup_cons_eq_ite (key, v) (first :: rest) k
    · split
      · rename_i hlt
        rw [lookup_cons_eq_ite, lookup_cons_eq_ite, ih]
        by_cases hfirst : k = first.1
        · have hne : first.1 ≠ key := fun he => String.lt_irrefl key (he ▸ hlt)
          simp [hfirst, hne]
        · simp only [hfirst, if_false]
      · rename_i hkey hother
        rw [lookup_cons_eq_ite, lookup_cons_eq_ite, eq_of_not_lt hkey hother]
        split <;> rfl

/-- A member in front of all others stays there. -/
theorem insertMember_of_forall_lt {key : String} {members : List (String × Value)}
    (h : ∀ m ∈ members, key < m.1) (v : Value) :
    insertMember key v members = (key, v) :: members := by
  cases members with
  | nil => rfl
  | cons first rest => rw [insertMember_cons, if_pos (h first List.mem_cons_self)]

theorem insertMember_of_forall_gt {key : String} {members : List (String × Value)}
    (h : ∀ m ∈ members, m.1 < key) (v : Value) :
    insertMember key v members = members ++ [(key, v)] := by
  induction members with
  | nil => rfl
  | cons first rest ih =>
    have hfirst := h first List.mem_cons_self
    rw [insertMember_cons, if_neg (String.lt_asymm hfirst), if_pos hfirst,
      ih fun m hm => h m (List.mem_cons_of_mem first hm)]
    rfl

/-- Choosing members by their keys and putting one more into place can be done in either order. -/
theorem Sorted.filter_insertMember {members : List (String × Value)} (h : Sorted members)
    (q : String → Bool) (key : String) (v : Value) :
    (Value.insertMember key v members).filter (fun m => q m.1) =
      if q key then Value.insertMember key v (members.filter fun m => q m.1)
      else members.filter fun m => q m.1 := by
  induction members with
  | nil => by_cases hq : q key <;> simp [insertMember_nil, hq]
  | cons first rest ih =>
    obtain ⟨hfirst, hrest⟩ := List.pairwise_cons.mp h
    rw [insertMember_cons]
    split
    · rename_i hlt
      rw [List.filter_cons]
      split
      · refine (insertMember_of_forall_lt (fun m hm => ?_) v).symm
        rcases List.mem_cons.mp (List.mem_filter.mp hm).1 with rfl | hm
        · exact hlt
        · exact String.lt_trans hlt (hfirst m hm)
      · rfl
    · rename_i hkey
      split
      · rename_i hlt
        rw [List.filter_cons, List.filter_cons, ih hrest]
        by_cases hq : q first.1 <;> by_cases hqkey : q key <;>
          simp [hq, hqkey, insertMember_cons, hkey, hlt]
      · rename_i hother
        obtain rfl := eq_of_not_lt hkey hother
        rw [List.filter_cons, List.filter_cons]
        by_cases hq : q first.1 <;> simp [hq, insertMember_cons]

/-! ## All members -/

theorem sortMembers_concat (members : List (String × Value)) (m : String × Value) :
    sortMembers (members ++ [m]) = insertMember m.1 m.2 (sortMembers members) := by
  rw [sortMembers, List.foldl_append]
  rfl

theorem sorted_sortMembers (members : List (String × Value)) : Sorted (sortMembers members) := by
  induction members using List.reverseRecOn with
  | nil => exact .nil
  | append_singleton members m ih =>
    rw [sortMembers_concat]
    exact ih.insertMember m.1 m.2

theorem mem_of_mem_sortMembers {members : List (String × Value)} {m : String × Value}
    (h : m ∈ sortMembers members) : m ∈ members := by
  induction members using List.reverseRecOn with
  | nil => exact h
  | append_singleton members last ih =>
    rw [sortMembers_concat] at h
    rcases mem_of_mem_insertMember h with rfl | h
    · simp
    · exact List.mem_append_left [last] (ih h)

/-- Of members with one key the last one is found. -/
theorem lookup_sortMembers (members : List (String × Value)) (key : String) :
    (sortMembers members).lookup key = members.reverse.lookup key := by
  induction members using List.reverseRecOn with
  | nil => rfl
  | append_singleton members m ih =>
    rw [sortMembers_concat, lookup_insertMember, ih, List.reverse_concat, lookup_cons_eq_ite]

theorem filter_sortMembers (q : String → Bool) (members : List (String × Value)) :
    (sortMembers members).filter (fun m => q m.1) =
      sortMembers (members.filter fun m => q m.1) := by
  induction members using List.reverseRecOn with
  | nil => rfl
  | append_singleton members m ih =>
    rw [sortMembers_concat, (sorted_sortMembers members).filter_insertMember, ih,
      List.filter_append]
    by_cases hq : q m.1 <;> simp [hq, sortMembers_concat]

theorem Sorted.sortMembers_eq {members : List (String × Value)} (h : Sorted members) :
    sortMembers members = members := by
  induction members using List.reverseRecOn with
  | nil => rfl
  | append_singleton members m ih =>
    obtain ⟨hmembers, -, hlast⟩ := List.pairwise_append.mp h
    rw [sortMembers_concat, ih hmembers]
    exact insertMember_of_forall_gt (fun a ha => hlast a ha m List.mem_cons_self) m.2

end Excerpt.Value
