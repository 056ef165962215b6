import Excerpt.Text.Basic

/-! # Lines of joined texts

Where two texts meet, the last line of the first one and the first line of the second one become
one line. All other lines stay as they are. -/

namespace Excerpt.Text

/-! ## Breaks -/

@[simp] theorem breaks_nil : breaks [] = 0 :=
  rfl

theorem breaks_cons (c : Char) (t : Text) :
    breaks (c :: t) = breaks t + if c = '\n' then 1 else 0 := by
  by_cases h : c = '\n' <;> simp [breaks, h]

@[simp] theorem breaks_cons_break (t : Text) : breaks ('\n' :: t) = breaks t + 1 := by
  simp [breaks_cons]

@[simp] theorem breaks_append (a b : Text) : breaks (a ++ b) = breaks a + breaks b :=
  List.count_append

theorem breaks_eq_zero_iff (t : Text) : breaks t = 0 ↔ '\n' ∉ t :=
  List.count_eq_zero

theorem breaks_le_of_isPrefix {a b : Text} (h : a <+: b) : a.breaks ≤ b.breaks := by
  obtain ⟨rest, rfl⟩ := h
  rw [breaks_append]
  exact Nat.le_add_right _ _

/-! ## First and last line -/

/-- What stands in front of the first break. -/
def firstLine (t : Text) : Text :=
  t.takeWhile (· != '\n')

/-- What stands behind the last break. -/
def lastLine (t : Text) : Text :=
  (t.reverse.takeWhile (· != '\n')).reverse

@[simp] theorem firstLine_nil : firstLine [] = [] :=
  rfl

@[simp] theorem firstLine_cons_break (t : Text) : firstLine ('\n' :: t) = [] := by
  simp [firstLine]

theorem firstLine_cons_of_ne {c : Char} (h : c ≠ '\n') (t : Text) :
    firstLine (c :: t) = c :: firstLine t := by
  simp [firstLine, h]

theorem firstLine_append_of_not_mem {a : Text} (h : '\n' ∉ a) (b : Text) :
    firstLine (a ++ b) = a ++ firstLine b := by
  apply List.takeWhile_append_of_pos
  intro c hc
  have hne : c ≠ '\n' := fun he => h (he ▸ hc)
  simpa using hne

theorem firstLine_of_not_mem {t : Text} (h : '\n' ∉ t) : firstLine t = t := by
  simpa using firstLine_append_of_not_mem h []

theorem firstLine_append_of_mem {a : Text} (h : '\n' ∈ a) (b : Text) :
    firstLine (a ++ b) = firstLine a := by
  induction a with
  | nil => simp at h
  | cons c a ih =>
    by_cases hc : c = '\n'
    · simp [hc]
    · have ha : '\n' ∈ a := by simpa [Ne.symm hc] using h
      rw [List.cons_append, firstLine_cons_of_ne hc, firstLine_cons_of_ne hc, ih ha]

theorem lastLine_of_not_mem {t : Text} (h : '\n' ∉ t) : lastLine t = t := by
  have hr : firstLine t.reverse = t.reverse := firstLine_of_not_mem (by simpa using h)
  have hl : lastLine t = (firstLine t.reverse).reverse := rfl
  rw [hl, hr, List.reverse_reverse]

theorem lastLine_append_break (a : Text) {b : Text} (h : '\n' ∉ b) :
    lastLine (a ++ '\n' :: b) = b := by
  have hl : lastLine (a ++ '\n' :: b) = (firstLine (b.reverse ++ '\n' :: a.reverse)).reverse := by
    simp [lastLine, firstLine]
  rw [hl, firstLine_append_of_not_mem (by simpa using h)]
  simp

@[simp] theorem lastLine_append_singleton_break (a : Text) : lastLine (a ++ ['\n']) = [] :=
  lastLine_append_break a (by simp)

/-- A text with a break in it ends with a break and its last line. -/
theorem exists_eq_append_lastLine {t : Text} (h : '\n' ∈ t) :
    ∃ front, t = front ++ '\n' :: lastLine t := by
  obtain ⟨back, front, hrev, hback⟩ := List.eq_append_cons_of_mem (List.mem_reverse.mpr h)
  have ht : t = front.reverse ++ '\n' :: back.reverse := by
    rw [← List.reverse_reverse t, hrev]
    simp
  have hlast : lastLine t = back.reverse := by
    rw [ht]
    exact lastLine_append_break front.reverse (by simpa using hback)
  exact ⟨front.reverse, by rw [hlast]; exact ht⟩

theorem not_mem_lastLine (t : Text) : '\n' ∉ lastLine t := by
  intro h
  have hall : (t.reverse.takeWhile (· != '\n')).all (· != '\n') := List.all_takeWhile
  have hne := List.all_eq_true.mp hall '\n' (List.mem_reverse.mp h)
  simp at hne

theorem lastLine_append_of_mem (a : Text) {b : Text} (h : '\n' ∈ b) :
    lastLine (a ++ b) = lastLine b := by
  obtain ⟨front, hb⟩ := exists_eq_append_lastLine h
  have hab : a ++ b = (a ++ front) ++ '\n' :: lastLine b := by
    rw [List.append_assoc, ← hb]
  rw [hab]
  exact lastLine_append_break (a ++ front) (not_mem_lastLine b)

/-! ## Lines -/

@[simp] theorem lines_nil : lines [] = [[]] :=
  rfl

@[simp] theorem lines_cons_break (t : Text) : lines ('\n' :: t) = [] :: lines t := by
  simp [lines]

theorem lines_eq_cons (t : Text) : lines t = firstLine t :: (lines t).tail := by
  induction t with
  | nil => rfl
  | cons c t ih =>
    by_cases hc : c = '\n'
    · simp [hc]
    · rw [firstLine_cons_of_ne hc]
      simp only [lines, hc, if_false]
      rw [ih]
      rfl

theorem lines_cons_of_ne {c : Char} (h : c ≠ '\n') (t : Text) :
    lines (c :: t) = (c :: firstLine t) :: (lines t).tail := by
  simp only [lines, h, if_false]
  rw [lines_eq_cons t]
  rfl

theorem lines_append_of_not_mem {a : Text} (h : '\n' ∉ a) (b : Text) :
    lines (a ++ b) = (a ++ firstLine b) :: (lines b).tail := by
  induction a with
  | nil => exact lines_eq_cons b
  | cons c a ih =>
    have hc : c ≠ '\n' := fun he => h (by simp [he])
    have ha : '\n' ∉ a := fun hm => h (by simp [hm])
    rw [List.cons_append, lines_cons_of_ne hc, firstLine_append_of_not_mem ha, ih ha]
    rfl

theorem lines_of_not_mem {t : Text} (h : '\n' ∉ t) : lines t = [t] := by
  simpa using lines_append_of_not_mem h []

theorem lines_append_break (a b : Text) : lines (a ++ '\n' :: b) = lines a ++ lines b := by
  induction a with
  | nil => simp
  | cons c a ih =>
    by_cases hc : c = '\n'
    · simp [hc, ih]
    · rw [List.cons_append, lines_cons_of_ne hc, lines_cons_of_ne hc, ih]
      have hf : firstLine (a ++ '\n' :: b) = firstLine a := by
        by_cases ha : '\n' ∈ a
        · exact firstLine_append_of_mem ha _
        · rw [firstLine_append_of_not_mem ha, firstLine_of_not_mem ha]
          simp
      rw [hf, List.tail_append_of_ne_nil (lines_ne_nil a), List.cons_append]

/-- The lines of two texts that are joined. -/
theorem lines_append (a b : Text) :
    lines (a ++ b) = (lines a).dropLast ++ (lastLine a ++ firstLine b) :: (lines b).tail := by
  by_cases h : '\n' ∈ a
  · obtain ⟨front, ha⟩ := exists_eq_append_lastLine h
    have hlast := not_mem_lastLine a
    have hab : a ++ b = front ++ '\n' :: (lastLine a ++ b) := by
      rw [← List.cons_append, ← List.append_assoc, ← ha]
    have hdrop : (lines a).dropLast = lines front := by
      rw [ha, lines_append_break, lines_of_not_mem hlast]
      simp
    rw [hab, lines_append_break, lines_append_of_not_mem hlast, hdrop]
  · rw [lines_append_of_not_mem h, lines_of_not_mem h, lastLine_of_not_mem h]
    rfl

theorem not_mem_of_mem_lines {t line : Text} (h : line ∈ lines t) : '\n' ∉ line := by
  induction t generalizing line with
  | nil => simp_all
  | cons c t ih =>
    by_cases hc : c = '\n'
    · rw [hc, lines_cons_break] at h
      rcases List.mem_cons.mp h with rfl | h
      · simp
      · exact ih h
    · rw [lines_cons_of_ne hc] at h
      have hfirst : firstLine t ∈ lines t := by
        rw [lines_eq_cons t]
        simp
      rcases List.mem_cons.mp h with rfl | h
      · simpa [Ne.symm hc] using ih hfirst
      · exact ih (List.mem_of_mem_tail h)

theorem length_le_of_mem_lines {t line : Text} (h : line ∈ lines t) : line.length ≤ t.length := by
  induction t generalizing line with
  | nil => simp_all
  | cons c t ih =>
    rw [List.length_cons]
    by_cases hc : c = '\n'
    · rw [hc, lines_cons_break] at h
      rcases List.mem_cons.mp h with rfl | h
      · exact Nat.zero_le _
      · exact Nat.le_succ_of_le (ih h)
    · rw [lines_cons_of_ne hc] at h
      have hfirst : firstLine t ∈ lines t := by
        rw [lines_eq_cons t]
        simp
      rcases List.mem_cons.mp h with rfl | h
      · exact Nat.succ_le_succ (ih hfirst)
      · exact Nat.le_succ_of_le (ih (List.mem_of_mem_tail h))

/-! ## Lines by number -/

theorem getElem?_lines_zero (t : Text) : (lines t)[0]? = some (firstLine t) := by
  rw [lines_eq_cons t]
  rfl

theorem length_dropLast_lines (t : Text) : (lines t).dropLast.length = breaks t := by
  simp [length_lines]

theorem getElem?_lines_append_breaks (a b : Text) :
    (lines (a ++ b))[breaks a]? = some (lastLine a ++ firstLine b) := by
  rw [lines_append, List.getElem?_append_right (Nat.le_of_eq (length_dropLast_lines a)),
    length_dropLast_lines]
  simp

theorem getElem?_lines_breaks (t : Text) : (lines t)[breaks t]? = some (lastLine t) := by
  simpa using getElem?_lines_append_breaks t []

theorem getElem?_lines_append_of_lt {i : Nat} {a : Text} (h : i < breaks a) (b : Text) :
    (lines (a ++ b))[i]? = (lines a)[i]? := by
  have hi : i < (lines a).dropLast.length := by rwa [length_dropLast_lines]
  rw [lines_append, List.getElem?_append_left hi, List.getElem?_dropLast, length_lines]
  simp [h]

theorem getElem?_lines_append_add {j : Nat} (h : 0 < j) (a b : Text) :
    (lines (a ++ b))[breaks a + j]? = (lines b)[j]? := by
  have hle : (lines a).dropLast.length ≤ breaks a + j := by
    rw [length_dropLast_lines]
    omega
  rw [lines_append, List.getElem?_append_right hle, length_dropLast_lines, Nat.add_sub_cancel_left]
  obtain ⟨i, rfl⟩ := Nat.exists_eq_succ_of_ne_zero (Nat.ne_of_gt h)
  rw [lines_eq_cons b]
  rfl

/-- A line of a text between two others. Only the first and the last line of the text in the
middle have neighbours on their own line. -/
theorem getElem?_lines_middle {middle line : Text} {j : Nat} (front back : Text)
    (h : (lines middle)[j]? = some line) :
    (lines (front ++ middle ++ back))[breaks front + j]? =
      some ((if j = 0 then lastLine front else []) ++ line ++
        (if j = breaks middle then firstLine back else [])) := by
  have hj : j ≤ breaks middle := by
    have hlt := (List.getElem?_eq_some_iff.mp h).1
    rw [length_lines] at hlt
    omega
  rw [List.append_assoc]
  rcases Nat.eq_zero_or_pos j with rfl | hpos
  · rw [getElem?_lines_zero, Option.some.injEq] at h
    subst h
    rw [Nat.add_zero, getElem?_lines_append_breaks]
    by_cases hm : '\n' ∈ middle
    · have hne : (0 : Nat) ≠ breaks middle := fun he =>
        (breaks_eq_zero_iff middle).mp he.symm hm
      simp [firstLine_append_of_mem hm, hne]
    · have he : (0 : Nat) = breaks middle := ((breaks_eq_zero_iff middle).mpr hm).symm
      simp [firstLine_append_of_not_mem hm, firstLine_of_not_mem hm, he]
  · rw [getElem?_lines_append_add hpos]
    have hne : j ≠ 0 := Nat.ne_of_gt hpos
    rcases Nat.lt_or_eq_of_le hj with hlt | rfl
    · rw [getElem?_lines_append_of_lt hlt, h]
      simp [hne, Nat.ne_of_lt hlt]
    · rw [getElem?_lines_breaks, Option.some.injEq] at h
      subst h
      rw [getElem?_lines_append_breaks]
      simp [hne]

/-! ## Joining lines -/

/-- Lines without breaks in them come back when they are joined and split again. -/
theorem lines_unlines {all : List Text} (hne : all ≠ []) (h : ∀ line ∈ all, '\n' ∉ line) :
    lines (unlines all) = all := by
  induction all with
  | nil => exact absurd rfl hne
  | cons first others ih =>
    have hfirst : '\n' ∉ first := h first (by simp)
    cases others with
    | nil => exact lines_of_not_mem hfirst
    | cons other others =>
      have hothers : ∀ line ∈ other :: others, '\n' ∉ line := fun line hl => h line (by simp [hl])
      rw [unlines_cons_of_ne_nil first (by simp), lines_append_break, lines_of_not_mem hfirst,
        ih (by simp) hothers]
      rfl

end Excerpt.Text
