import Excerpt.Proofs.Reindent.CommonIndent

/-! # Reindenting shifted lines

When all lines with content are shifted by one width, so is the least indentation among them. A text
that is indented loses that width again, and a text that was reindented has nothing left to lose. -/

namespace Excerpt

open Text

/-! ## The least indentation of shifted lines -/

/-- The least indentation of the lines with content, if there are any. -/
def leastIndent (all : List Text) : Option Nat :=
  (all.filterMap contentIndent).min?

theorem commonIndent_eq_getD (all : List Text) : commonIndent all = (leastIndent all).getD 0 :=
  rfl

theorem isSome_leastIndent_iff {all : List Text} :
    (leastIndent all).isSome ↔ ∃ line ∈ all, HasContent line := by
  simp [leastIndent, hasContent_iff, Option.isSome_iff_ne_none]

theorem min?_map_add (width : Nat) (widths : List Nat) :
    (widths.map (width + ·)).min? = widths.min?.map (width + ·) := by
  induction widths with
  | nil => rfl
  | cons first widths ih =>
    rw [List.map_cons, List.min?_cons, List.min?_cons, ih]
    cases widths.min? <;> simp

theorem leastIndent_map_shift {all : List Text} {before after : Text → Text} {width : Nat}
    (h : ∀ line ∈ all,
      contentIndent (after line) = (contentIndent (before line)).map (width + ·)) :
    leastIndent (all.map after) = (leastIndent (all.map before)).map (width + ·) := by
  have hwidths : (all.map after).filterMap contentIndent =
      ((all.map before).filterMap contentIndent).map (width + ·) := by
    rw [List.filterMap_map, List.filterMap_map, List.map_filterMap]
    exact List.filterMap_congr h
  rw [leastIndent, hwidths, min?_map_add, leastIndent]

/-! ## Reindenting twice -/

/-- A line with content is a stripped one that is shifted back. Any other line, whether something
was removed from it or not, is still without content. -/
theorem contentIndent_eq_map_stripIndent {width : Nat} {line : Text}
    (h : HasContent line → width ≤ indentWidth line) :
    contentIndent line = (contentIndent (stripIndent width line)).map (width + ·) := by
  by_cases hle : width ≤ indentWidth line
  · have hindent : ∀ c ∈ strippedIndent width line, isIndent c :=
      fun c => isIndent_of_mem_strippedIndent
    have hshift := contentIndent_append hindent (stripIndent width line)
    rwa [strippedIndent_append_stripIndent, length_strippedIndent hle] at hshift
  · have hnone : contentIndent line = none := by
      simpa [hasContent_iff] using fun hcontent => hle (h hcontent)
    simp [stripIndent, hle, hnone]

theorem commonIndent_map_stripIndent (all : List Text) :
    commonIndent (all.map (stripIndent (commonIndent all))) = 0 := by
  have hshift : leastIndent (all.map id) =
      (leastIndent (all.map (stripIndent (commonIndent all)))).map (commonIndent all + ·) := by
    apply leastIndent_map_shift
    intro line hline
    apply contentIndent_eq_map_stripIndent
    exact commonIndent_le_indentWidth hline
  rw [List.map_id] at hshift
  cases hstripped : leastIndent (all.map (stripIndent (commonIndent all))) with
  | none => rw [commonIndent_eq_getD, hstripped, Option.getD_none]
  | some least =>
    -- the common width is itself plus what is left, so nothing is left
    have hleast : leastIndent all = some (commonIndent all + least) := by
      rw [hshift, hstripped, Option.map_some]
    have hcommon := commonIndent_eq_getD all
    rw [hleast, Option.getD_some] at hcommon
    rw [commonIndent_eq_getD, hstripped, Option.getD_some]
    omega

/-- Reindenting a second time removes nothing. -/
theorem reindent_reindent (t : Text) : reindent (reindent t).text = ⟨(reindent t).text, 0⟩ := by
  apply reindent_of_commonIndent_eq_zero
  rw [lines_reindent, indentColumns_reindent]
  exact commonIndent_map_stripIndent t.lines

/-! ## Reindenting an indented text -/

/-- Puts an indentation in front of a line, unless the line is empty. -/
def indentLine (indent line : Text) : Text :=
  if line = [] then [] else indent ++ line

/-- Indents all lines of a text that are not empty. -/
def indentLines (indent t : Text) : Text :=
  unlines (t.lines.map (indentLine indent))

theorem contentIndent_indentLine {indent : Text} (h : ∀ c ∈ indent, isIndent c) (line : Text) :
    contentIndent (indentLine indent line) = (contentIndent line).map (indent.length + ·) := by
  by_cases hline : line = []
  · simp [indentLine, hline, contentIndent]
  · simp [indentLine, hline, contentIndent_append h]

theorem stripIndent_indentLine {indent : Text} (h : ∀ c ∈ indent, isIndent c) {width : Nat}
    {line : Text} (hline : line = [] ∨ width ≤ indentWidth line) :
    stripIndent (indent.length + width) (indentLine indent line) = stripIndent width line := by
  by_cases hempty : line = []
  · simp [indentLine, hempty, stripIndent]
  · have hwidth : width ≤ indentWidth line := by simpa [hempty] using hline
    simp [indentLine, hempty, stripIndent_append h hwidth]

theorem not_mem_indentLine {indent line : Text} (h : ∀ c ∈ indent, isIndent c)
    (hline : '\n' ∉ line) : '\n' ∉ indentLine indent line := by
  have hindent : '\n' ∉ indent := fun hmem => by simpa [isIndent] using h '\n' hmem
  unfold indentLine
  split
  · simp
  · simp [hindent, hline]

theorem lines_indentLines {indent : Text} (h : ∀ c ∈ indent, isIndent c) (t : Text) :
    (indentLines indent t).lines = t.lines.map (indentLine indent) := by
  apply lines_unlines
  · simp [lines_ne_nil]
  · intro line hline
    obtain ⟨original, horiginal, rfl⟩ := List.mem_map.mp hline
    exact not_mem_indentLine h (not_mem_of_mem_lines horiginal)

theorem commonIndent_map_indentLine {indent : Text} (h : ∀ c ∈ indent, isIndent c)
    {all : List Text} (hcontent : ∃ line ∈ all, HasContent line) :
    commonIndent (all.map (indentLine indent)) = indent.length + commonIndent all := by
  have hshift : leastIndent (all.map (indentLine indent)) =
      (leastIndent (all.map id)).map (indent.length + ·) :=
    leastIndent_map_shift fun line _ => contentIndent_indentLine h line
  rw [List.map_id] at hshift
  obtain ⟨least, hleast⟩ := Option.isSome_iff_exists.mp (isSome_leastIndent_iff.mpr hcontent)
  simp [commonIndent_eq_getD, hshift, hleast]

/-- An indented text is reindented to the same text as before, and the width that is removed grows
by the indentation. -/
theorem reindent_indentLines {t indent : Text}
    (hlines : ∀ line ∈ t.lines, line = [] ∨ HasContent line)
    (hsome : ∃ line ∈ t.lines, line ≠ []) (hindent : ∀ c ∈ indent, isIndent c) :
    reindent (indentLines indent t) =
      ⟨(reindent t).text, (reindent t).indentColumns + indent.length⟩ := by
  have hcontent : ∃ line ∈ t.lines, HasContent line := by
    obtain ⟨line, hline, hne⟩ := hsome
    exact ⟨line, hline, (hlines line hline).resolve_left hne⟩
  have hwidth : (reindent (indentLines indent t)).indentColumns =
      indent.length + (reindent t).indentColumns := by
    rw [indentColumns_reindent, indentColumns_reindent, lines_indentLines hindent,
      commonIndent_map_indentLine hindent hcontent]
  apply Reindented.eq_of_lines_eq
  · rw [hwidth, Nat.add_comm]
  · rw [lines_reindent, hwidth, lines_indentLines hindent, lines_reindent, List.map_map]
    apply List.map_congr_left
    intro line hline
    apply stripIndent_indentLine hindent
    exact (hlines line hline).imp_right fun h =>
      indentColumns_reindent_le hline (hasContent_iff.mp h)

/-- Lines indented in different ways, with an empty line between them. -/
def mixedLines : Text :=
  " \ta\n\n\t  é b".toList

theorem reindent_indentLines_mixedLines :
    (∀ line ∈ mixedLines.lines, line = [] ∨ HasContent line) ∧
      (∃ line ∈ mixedLines.lines, line ≠ []) ∧ (∀ c ∈ ['\t', ' '], isIndent c) ∧
      indentLines ['\t', ' '] mixedLines = "\t  \ta\n\n\t \t  é b".toList ∧
      reindent (indentLines ['\t', ' '] mixedLines) = ⟨"a\n\n é b".toList, 4⟩ := by
  have hlines : ∀ line ∈ mixedLines.lines, line = [] ∨ HasContent line := by decide
  have hsome : ∃ line ∈ mixedLines.lines, line ≠ [] := by decide
  have hindent : ∀ c ∈ ['\t', ' '], isIndent c := by simp [isIndent]
  refine ⟨hlines, hsome, hindent, by decide, ?_⟩
  rw [reindent_indentLines hlines hsome hindent]
  decide

end Excerpt
