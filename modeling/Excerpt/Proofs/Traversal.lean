import Mathlib.Data.List.Forall2

/-! # Lists that are read item by item

Reading a list succeeds when every item can be read, and every result is that of its item. -/

namespace Excerpt

variable {α β : Type}

theorem mapM_eq_some_iff_forall₂ {f : α → Option β} {xs : List α} {ys : List β} :
    xs.mapM f = some ys ↔ List.Forall₂ (fun x y => f x = some y) xs ys := by
  induction xs generalizing ys with
  | nil => cases ys <;> simp
  | cons x xs ih =>
    rw [List.mapM_cons]
    cases hx : f x with
    | none => cases ys <;> simp [hx]
    | some y => cases hxs : xs.mapM f <;> cases ys <;> simp [hx, hxs, ← ih]

theorem exists_forall₂_iff {r : α → β → Prop} {xs : List α} :
    (∃ ys, List.Forall₂ r xs ys) ↔ ∀ x ∈ xs, ∃ y, r x y := by
  induction xs with
  | nil => simp
  | cons x xs ih =>
    rw [List.forall_mem_cons, ← ih]
    constructor
    · rintro ⟨_, hx | ⟨hx, hxs⟩⟩
      exact ⟨⟨_, hx⟩, _, hxs⟩
    · rintro ⟨⟨y, hx⟩, ys, hxs⟩
      exact ⟨y :: ys, .cons hx hxs⟩

theorem exists_of_mapM {f : α → Option β} {xs : List α} {ys : List β} (h : xs.mapM f = some ys) :
    ∀ y ∈ ys, ∃ x ∈ xs, f x = some y := by
  rw [mapM_eq_some_iff_forall₂] at h
  induction h with
  | nil => simp
  | @cons x first xs ys hfirst _ ih =>
    intro y hy
    rcases List.mem_cons.mp hy with rfl | hy
    · exact ⟨x, List.mem_cons_self, hfirst⟩
    · obtain ⟨z, hz, hzy⟩ := ih y hy
      exact ⟨z, List.mem_cons_of_mem x hz, hzy⟩

theorem mapM_map_eq_some {f : β → Option α} {g : α → β} {xs : List α}
    (h : ∀ x ∈ xs, f (g x) = some x) : (xs.map g).mapM f = some xs := by
  rw [mapM_eq_some_iff_forall₂, List.forall₂_map_left_iff, List.forall₂_same]
  exact h

/-- What is kept of the results is what becomes of the items that are kept. -/
theorem map_filter_of_mapM {γ : Type} {f : α → Option β} {g : α → γ} {g' : β → γ}
    (keep : α → Bool) (keep' : β → Bool) {xs : List α} {ys : List β} (h : xs.mapM f = some ys)
    (hkeep : ∀ x ∈ xs, ∀ y, f x = some y → keep' y = keep x)
    (hg : ∀ x ∈ xs, ∀ y, f x = some y → g' y = g x) :
    (ys.filter keep').map g' = (xs.filter keep).map g := by
  rw [mapM_eq_some_iff_forall₂] at h
  induction h with
  | nil => rfl
  | @cons x y xs ys hy _ ih =>
    have hrest := ih (fun z hz => hkeep z (List.mem_cons_of_mem x hz))
      fun z hz => hg z (List.mem_cons_of_mem x hz)
    rw [List.filter_cons, List.filter_cons, hkeep x List.mem_cons_self y hy]
    split
    · rw [List.map_cons, List.map_cons, hrest, hg x List.mem_cons_self y hy]
    · exact hrest

end Excerpt
