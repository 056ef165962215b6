import Excerpt.Proofs.Pattern.Ways

/-! # Groups of a pattern that is ready for matching

Spelling out the repetitions of an expression copies groups, but it makes no new ones. -/

namespace Excerpt.Pattern.Node

@[simp] theorem names_joined (gated : Bool) (label : Nat) (n : Node) :
    (joined gated label n).names = n.names := by
  cases gated <;> simp [joined, names]

section Copies

variable {make : Nat → Node × Nat} {allowed : List String}
  (hmake : ∀ label, (make label).1.names ⊆ allowed)

include hmake

theorem names_copies_subset (count label : Nat) :
    (copies make count label).1.names ⊆ allowed := by
  fun_induction copies make count label with
  | case1 => simp [names]
  | case2 label => exact hmake label
  | case3 count label _ first next hfirst others last hothers ih =>
    have hone := hmake label
    rw [hfirst] at hone
    rw [hothers] at ih
    exact List.append_subset.mpr ⟨hone, ih⟩

theorem names_optionalCopies_subset (greedy : Bool) (count label : Nat) :
    (optionalCopies make greedy count label).1.names ⊆ allowed := by
  fun_induction optionalCopies make greedy count label with
  | case1 => simp [names]
  | case2 label first next hfirst =>
    have hone := hmake label
    rw [hfirst] at hone
    exact hone
  | case3 count label _ first next hfirst others last hothers ih =>
    have hone := hmake label
    rw [hfirst] at hone
    rw [hothers] at ih
    exact List.append_subset.mpr ⟨hone, ih⟩

end Copies

section Repetitions

variable {make : Bool → Nat → Node × Nat} {allowed : List String}
  (hmake : ∀ gated label, (make gated label).1.names ⊆ allowed)

include hmake

theorem names_loop_subset (gated nullable greedy : Bool) (label : Nat) :
    (loop make gated nullable greedy label).1.names ⊆ allowed := by
  cases nullable with
  | false => exact hmake gated label
  | true => exact hmake true (label + 1)

theorem names_anyRounds_subset (gated nullable greedy : Bool) (label : Nat) :
    (anyRounds make gated nullable greedy label).1.names ⊆ allowed := by
  cases nullable with
  | false =>
    have hbody := hmake gated label
    cases gated with
    | false => exact hbody
    | true => simpa [anyRounds, names] using hbody
  | true =>
    have hrounds := names_loop_subset hmake gated true greedy label
    simpa [anyRounds, names] using hrounds

theorem names_repetition_subset (gated nullable onlyEmpty greedy : Bool) (least : Nat)
    (most : Option Nat) (label : Nat) :
    (repetition make gated nullable onlyEmpty greedy least most label).1.names ⊆ allowed := by
  unfold repetition
  -- the bounds do not matter, so what an expression of empty texts makes of them does not either
  generalize (if onlyEmpty then (min least 1, some (min (most.getD 1) 1)) else (least, most)) =
    bounds
  obtain ⟨least, most⟩ := bounds
  have hcopies := names_copies_subset (hmake gated)
  have hloop := names_loop_subset hmake gated nullable greedy
  have hoptional := names_optionalCopies_subset (hmake gated) greedy
  dsimp only
  split
  · exact names_anyRounds_subset hmake gated nullable greedy label
  · dsimp only
    split
    · exact hloop _
    · exact List.append_subset.mpr ⟨hcopies _ _, hloop _⟩
  · split
    · exact hcopies _ _
    · rw [names_joined]
      split
      · exact hoptional _ _
      · exact List.append_subset.mpr ⟨hcopies _ _, hoptional _ _⟩

end Repetitions

/-- The groups of a node are groups of its expression. -/
theorem names_build_subset (e : Expr) (gated : Bool) (label : Nat) :
    (build e gated label).1.names ⊆ e.names := by
  induction e generalizing gated label with
  | empty => simp [build, names]
  | directive => simp [build, names]
  | set c => simp [build, names]
  | look a => simp [build, names]
  | repeated least most greedy body ih =>
    exact names_repetition_subset ih gated body.nullable body.onlyEmpty greedy least most label
  | capture name body ih =>
    cases name with
    | none => exact ih gated label
    | some name => exact List.cons_subset_cons name (ih gated label)
  | group body ih => exact ih gated label
  | cat a b iha ihb =>
    exact List.append_subset.mpr ⟨List.subset_append_of_subset_left _ (iha gated label),
      List.subset_append_of_subset_right _ (ihb gated _)⟩
  | alt a b iha ihb =>
    rw [build, names_joined]
    exact List.append_subset.mpr ⟨List.subset_append_of_subset_left _ (iha gated label),
      List.subset_append_of_subset_right _ (ihb gated _)⟩

end Excerpt.Pattern.Node
