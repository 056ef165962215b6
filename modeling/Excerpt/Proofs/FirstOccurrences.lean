import Mathlib.Data.List.Induction

/-! # First occurrences

Where something stands in a list several times, `List.eraseDups` keeps the first of them. -/

namespace Excerpt

variable {α : Type} [BEq α] [LawfulBEq α]

theorem eraseDups_concat (l : List α) (a : α) :
    (l ++ [a]).eraseDups = if a ∈ l.eraseDups then l.eraseDups else l.eraseDups ++ [a] := by
  rw [List.eraseDups_append]
  by_cases h : a ∈ l <;> simp [List.removeAll, List.eraseDups_cons, h]

theorem eraseDups_filter (q : α → Bool) (l : List α) :
    (l.filter q).eraseDups = l.eraseDups.filter q := by
  induction l using List.reverseRecOn with
  | nil => simp
  | append_singleton l a ih =>
    rw [eraseDups_concat, List.filter_append]
    by_cases hq : q a
    · rw [List.filter_cons_of_pos hq, List.filter_nil, eraseDups_concat, ih]
      by_cases ha : a ∈ l <;> simp [ha, hq]
    · rw [List.filter_cons_of_neg hq, List.filter_nil, List.append_nil, ih]
      by_cases ha : a ∈ l <;> simp [ha, hq]

/-- What is kept stands in the order of first appearance. -/
theorem pairwise_idxOf_eraseDups (l : List α) :
    l.eraseDups.Pairwise fun a b => l.idxOf a < l.idxOf b := by
  induction l using List.reverseRecOn with
  | nil => simp
  | append_singleton l a ih =>
    have hkept : ∀ b ∈ l.eraseDups, (l ++ [a]).idxOf b = l.idxOf b := by
      intro b hb
      rw [List.idxOf_append, if_pos (List.mem_eraseDups.mp hb)]
    have hold : l.eraseDups.Pairwise fun b c => (l ++ [a]).idxOf b < (l ++ [a]).idxOf c := by
      refine ih.imp_of_mem ?_
      intro b c hb hc hlt
      rwa [hkept b hb, hkept c hc]
    rw [eraseDups_concat]
    split
    · exact hold
    · rename_i ha
      refine List.pairwise_append.mpr ⟨hold, List.pairwise_singleton _ a, ?_⟩
      intro b hb c hc
      rw [List.mem_eraseDups] at ha
      rw [List.mem_singleton.mp hc, hkept b hb, List.idxOf_append, if_neg ha]
      exact Nat.lt_add_left _ (List.idxOf_lt_length_of_mem (List.mem_eraseDups.mp hb))

theorem nodup_eraseDups (l : List α) : l.eraseDups.Nodup := by
  refine (pairwise_idxOf_eraseDups l).imp ?_
  rintro a b hlt rfl
  exact Nat.lt_irrefl _ hlt

end Excerpt
