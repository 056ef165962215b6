import Excerpt.Reindent
import Excerpt.Proofs.Text.Ink
import Excerpt.Proofs.Text.Lines

/-! # What reindenting removes

Reindenting works on each line alone. It removes one width of spaces and tabs from the lines that
start with so many, and nothing from any other line. -/

namespace Excerpt

open Text

/-! ## One line -/

theorem isBlank_of_isIndent {c : Char} (h : isIndent c) : isBlank c := by
  simp only [isIndent, Bool.or_eq_true, beq_iff_eq] at h
  rcases h with rfl | rfl <;> decide

/-- The spaces and tabs that `stripIndent` removes from a line. -/
def strippedIndent (width : Nat) (line : Text) : Text :=
  if width ≤ indentWidth line then line.take width else []

theorem strippedIndent_append_stripIndent (width : Nat) (line : Text) :
    strippedIndent width line ++ stripIndent width line = line := by
  unfold strippedIndent stripIndent
  split
  · exact List.take_append_drop width line
  · rfl

theorem indentWidth_le_length (line : Text) : indentWidth line ≤ line.length :=
  (List.takeWhile_sublist _).length_le

theorem length_strippedIndent {width : Nat} {line : Text} (h : width ≤ indentWidth line) :
    (strippedIndent width line).length = width := by
  have hlen := indentWidth_le_length line
  rw [strippedIndent, if_pos h, List.length_take]
  omega

theorem strippedIndent_eq_nil {width : Nat} {line : Text} (h : indentWidth line < width) :
    strippedIndent width line = [] :=
  if_neg (Nat.not_le_of_lt h)

theorem take_eq_take_takeWhile {width : Nat} {line : Text} (h : width ≤ indentWidth line) :
    line.take width = (line.takeWhile isIndent).take width := by
  have hsplit := List.takeWhile_append_dropWhile (p := isIndent) (l := line)
  calc
    line.take width = (line.takeWhile isIndent ++ line.dropWhile isIndent).take width := by
      rw [hsplit]
    _ = (line.takeWhile isIndent).take width := List.take_append_of_le_length h

theorem isIndent_of_mem_strippedIndent {width : Nat} {line : Text} {c : Char}
    (h : c ∈ strippedIndent width line) : isIndent c := by
  unfold strippedIndent at h
  split at h
  · rename_i hle
    rw [take_eq_take_takeWhile hle] at h
    have hall : (line.takeWhile isIndent).all isIndent := List.all_takeWhile
    exact List.all_eq_true.mp hall c (List.mem_of_mem_take h)
  · simp at h

theorem isBlank_strippedIndent (width : Nat) (line : Text) :
    (strippedIndent width line).isBlank := by
  apply List.all_eq_true.mpr
  intro c hc
  exact isBlank_of_isIndent (isIndent_of_mem_strippedIndent hc)

theorem ink_stripIndent (width : Nat) (line : Text) : ink (stripIndent width line) = ink line := by
  have h := congrArg ink (strippedIndent_append_stripIndent width line)
  rw [ink_append, ink_of_isBlank (isBlank_strippedIndent width line)] at h
  simpa using h

@[simp] theorem stripIndent_zero (line : Text) : stripIndent 0 line = line := by
  simp [stripIndent]

theorem not_mem_stripIndent {line : Text} (h : '\n' ∉ line) (width : Nat) :
    '\n' ∉ stripIndent width line := by
  intro hm
  apply h
  rw [← strippedIndent_append_stripIndent width line]
  exact List.mem_append_right _ hm

theorem contentIndent_eq_some {line : Text} {width : Nat} (h : contentIndent line = some width) :
    width = indentWidth line := by
  unfold contentIndent at h
  split at h
  · simp at h
  · split at h
    · simp at h
    · simpa using h.symm

/-! ## All lines -/

theorem commonIndent_le {all : List Text} {line : Text} {width : Nat} (hline : line ∈ all)
    (h : contentIndent line = some width) : commonIndent all ≤ width := by
  have hmem : width ∈ all.filterMap contentIndent := List.mem_filterMap.mpr ⟨line, hline, h⟩
  unfold commonIndent
  cases hmin : (all.filterMap contentIndent).min? with
  | none => simp
  | some least => exact (List.min?_eq_some_iff.mp hmin).2 width hmem

theorem commonIndent_le_length {all : List Text} {bound : Nat}
    (h : ∀ line ∈ all, line.length ≤ bound) : commonIndent all ≤ bound := by
  unfold commonIndent
  cases hmin : (all.filterMap contentIndent).min? with
  | none => exact Nat.zero_le _
  | some least =>
    obtain ⟨line, hline, hwidth⟩ :=
      List.mem_filterMap.mp (List.min?_eq_some_iff.mp hmin).1
    rw [Option.getD_some, contentIndent_eq_some hwidth]
    exact Nat.le_trans (indentWidth_le_length line) (h line hline)

theorem indentColumns_reindent (t : Text) : (reindent t).indentColumns = commonIndent t.lines := by
  unfold reindent
  by_cases h : commonIndent t.lines = 0 <;> simp [h]

theorem indentColumns_reindent_le_length (t : Text) : (reindent t).indentColumns ≤ t.length := by
  rw [indentColumns_reindent]
  exact commonIndent_le_length fun _ hline => length_le_of_mem_lines hline

/-- Every line with content is indented as far as the width that is removed. -/
theorem indentColumns_reindent_le {t line : Text} (hline : line ∈ t.lines)
    (h : (contentIndent line).isSome) : (reindent t).indentColumns ≤ indentWidth line := by
  obtain ⟨width, hwidth⟩ := Option.isSome_iff_exists.mp h
  rw [indentColumns_reindent, ← contentIndent_eq_some hwidth]
  exact commonIndent_le hline hwidth

/-- Reindenting strips every line of the same width. -/
theorem lines_reindent (t : Text) :
    (reindent t).text.lines = t.lines.map (stripIndent (reindent t).indentColumns) := by
  rw [indentColumns_reindent]
  unfold reindent
  by_cases hzero : commonIndent t.lines = 0
  · have hmap : t.lines.map (stripIndent 0) = t.lines := by
      simp [funext stripIndent_zero]
    simp [hzero, hmap]
  · have hbreaks : ∀ line ∈ t.lines.map (stripIndent (commonIndent t.lines)), '\n' ∉ line := by
      intro line hline
      obtain ⟨original, horiginal, rfl⟩ := List.mem_map.mp hline
      exact not_mem_stripIndent (not_mem_of_mem_lines horiginal) _
    simp only [hzero, if_false]
    exact lines_unlines (by simp [lines_ne_nil]) hbreaks

theorem breaks_reindent (t : Text) : (reindent t).text.breaks = t.breaks := by
  have h := congrArg List.length (lines_reindent t)
  rw [length_lines, List.length_map, length_lines] at h
  omega

/-- Reindenting keeps the ink. -/
theorem ink_reindent (t : Text) : ink (reindent t).text = ink t := by
  rw [ink_eq_flatMap_lines, lines_reindent, List.flatMap_map, ink_eq_flatMap_lines t]
  simp only [ink_stripIndent]

end Excerpt
