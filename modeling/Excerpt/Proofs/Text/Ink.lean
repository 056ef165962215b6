import Excerpt.Text.Blank

/-! # Ink

The ink of a text is what remains of it when its blanks are gone. Moving text about may add and
drop blanks, and keeps the ink. -/

namespace Excerpt.Text

/-- The characters of a text that are not blank, in their order. -/
def ink (t : Text) : Text :=
  t.filter (!Excerpt.isBlank ·)

@[simp] theorem ink_nil : ink [] = [] :=
  rfl

@[simp] theorem ink_append (a b : Text) : ink (a ++ b) = ink a ++ ink b :=
  List.filter_append a b

@[simp] theorem ink_cons_break (t : Text) : ink ('\n' :: t) = ink t :=
  rfl

/-- A text is blank exactly when it has no ink. -/
theorem ink_eq_nil_iff (t : Text) : ink t = [] ↔ t.isBlank := by
  simp [ink, isBlank]

theorem ink_of_isBlank {t : Text} (h : t.isBlank) : ink t = [] :=
  (ink_eq_nil_iff t).mpr h

/-- Texts with the same ink are both blank or both not. -/
theorem isBlank_congr {a b : Text} (h : ink a = ink b) : a.isBlank = b.isBlank := by
  rw [Bool.eq_iff_iff, ← ink_eq_nil_iff, ← ink_eq_nil_iff, h]

theorem ink_unlines (all : List Text) : ink (unlines all) = all.flatMap ink := by
  induction all with
  | nil => rfl
  | cons first others ih =>
    cases others with
    | nil => simp [unlines]
    | cons other others =>
      rw [unlines_cons_of_ne_nil first (by simp), ink_append, ink_cons_break, ih]
      rfl

theorem ink_eq_flatMap_lines (t : Text) : ink t = (lines t).flatMap ink := by
  rw [← ink_unlines, unlines_lines]

end Excerpt.Text
