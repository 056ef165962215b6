import Excerpt.Proofs.Reindent
import Excerpt.Proofs.Text.Bytes
import Mathlib.Data.List.Forall2
import Mathlib.Order.Bounds.Basic

/-! # The greatest common indentation

Reindenting removes the greatest width of spaces and tabs that all lines with content start with.
Spaces and tabs are single bytes, so a line can be cut by its characters or by its bytes. -/

namespace Excerpt

open Text

/-! ## Indentation in characters -/

/-- The line starts with so many spaces and tabs. -/
def StartsIndented (width : Nat) (line : Text) : Prop :=
  ∃ indent rest, line = indent ++ rest ∧ indent.length = width ∧ ∀ c ∈ indent, isIndent c

/-- The line starts with so many spaces and tabs, and the next character is not blank. -/
def ContentAt (width : Nat) (line : Text) : Prop :=
  ∃ indent c rest, line = indent ++ c :: rest ∧ indent.length = width ∧
    (∀ c ∈ indent, isIndent c) ∧ isBlank c = false

def HasContent (line : Text) : Prop :=
  ∃ width, ContentAt width line

/-- A line and what is left of it when so many columns are removed. A line that does not start with
so many spaces and tabs stays whole. -/
inductive Unindents (width : Nat) : Text → Text → Prop
  | stripped {indent rest : Text} (hwidth : indent.length = width)
      (hindent : ∀ c ∈ indent, isIndent c) : Unindents width (indent ++ rest) rest
  | kept {line : Text} (h : ¬ StartsIndented width line) : Unindents width line line

theorem indentWidth_append {indent : Text} (h : ∀ c ∈ indent, isIndent c) (rest : Text) :
    indentWidth (indent ++ rest) = indent.length + indentWidth rest := by
  simp [indentWidth, List.takeWhile_append_of_pos h]

theorem contentIndent_append {indent : Text} (h : ∀ c ∈ indent, isIndent c) (rest : Text) :
    contentIndent (indent ++ rest) = (contentIndent rest).map (indent.length + ·) := by
  unfold contentIndent
  rw [List.dropWhile_append_of_pos h, indentWidth_append h]
  split
  · rfl
  · split <;> rfl

theorem contentIndent_cons_of_not_isBlank {c : Char} (h : isBlank c = false) (rest : Text) :
    contentIndent (c :: rest) = some 0 := by
  have hindent : isIndent c = false := by
    cases hc : isIndent c with
    | false => rfl
    | true => simp [isBlank_of_isIndent hc] at h
  simp [contentIndent, indentWidth, hindent, h]

theorem stripIndent_append {indent : Text} (h : ∀ c ∈ indent, isIndent c) {width : Nat}
    {rest : Text} (hwidth : width ≤ indentWidth rest) :
    stripIndent (indent.length + width) (indent ++ rest) = stripIndent width rest := by
  have hle : indent.length + width ≤ indentWidth (indent ++ rest) := by
    rw [indentWidth_append h]
    omega
  simp [stripIndent, hle, hwidth]

theorem startsIndented_iff {width : Nat} {line : Text} :
    StartsIndented width line ↔ width ≤ indentWidth line := by
  constructor
  · rintro ⟨indent, rest, rfl, rfl, hindent⟩
    simp [indentWidth_append hindent]
  · intro h
    exact ⟨strippedIndent width line, stripIndent width line,
      (strippedIndent_append_stripIndent width line).symm, length_strippedIndent h,
      fun c => isIndent_of_mem_strippedIndent⟩

theorem contentAt_iff {width : Nat} {line : Text} :
    ContentAt width line ↔ contentIndent line = some width := by
  constructor
  · rintro ⟨indent, c, rest, rfl, rfl, hindent, hc⟩
    simp [contentIndent_append hindent, contentIndent_cons_of_not_isBlank hc]
  · intro h
    have hsplit := List.takeWhile_append_dropWhile (p := isIndent) (l := line)
    have hall : (line.takeWhile isIndent).all isIndent := List.all_takeWhile
    unfold contentIndent at h
    split at h
    · simp at h
    · rename_i c rest hrest
      split at h
      · simp at h
      · rename_i hc
        rw [hrest] at hsplit
        exact ⟨line.takeWhile isIndent, c, rest, hsplit.symm, Option.some.inj h,
          List.all_eq_true.mp hall, by simpa using hc⟩

theorem hasContent_iff {line : Text} : HasContent line ↔ (contentIndent line).isSome := by
  simp [HasContent, contentAt_iff, Option.isSome_iff_exists]

instance : DecidablePred HasContent := fun _ =>
  decidable_of_iff _ hasContent_iff.symm

theorem unindents_iff {width : Nat} {line out : Text} :
    Unindents width line out ↔ stripIndent width line = out := by
  constructor
  · rintro (⟨rfl, hindent⟩ | h)
    · simpa using stripIndent_append hindent (Nat.zero_le _)
    · simp [stripIndent, startsIndented_iff.not.mp h]
  · rintro rfl
    by_cases h : width ≤ indentWidth line
    · have hstripped : Unindents width (strippedIndent width line ++ stripIndent width line)
          (stripIndent width line) :=
        .stripped (length_strippedIndent h) fun c => isIndent_of_mem_strippedIndent
      rwa [strippedIndent_append_stripIndent] at hstripped
    · rw [stripIndent, if_neg h]
      exact .kept (startsIndented_iff.not.mpr h)

theorem forall₂_unindents_iff {width : Nat} {all out : List Text} :
    List.Forall₂ (Unindents width) all out ↔ all.map (stripIndent width) = out := by
  rw [← List.forall₂_eq_eq_eq, List.forall₂_map_left_iff]
  simp only [← unindents_iff]

/-! ## Indentation in bytes -/

def isIndentByte (b : UInt8) : Bool :=
  b == 0x20 || b == 0x09

/-- Removes `width` bytes from the bytes of a line when all of them are spaces and tabs. -/
def stripIndentBytes (width : Nat) (bytes : List UInt8) : List UInt8 :=
  if width ≤ bytes.length ∧ (bytes.take width).all isIndentByte then bytes.drop width else bytes

theorem le_length_takeWhile_iff {α : Type*} {p : α → Bool} {width : Nat} {l : List α} :
    width ≤ (l.takeWhile p).length ↔ width ≤ l.length ∧ (l.take width).all p := by
  induction l generalizing width with
  | nil => cases width <;> simp
  | cons a l ih =>
    cases width with
    | zero => simp
    | succ width =>
      cases h : p a with
      | false => simp [h]
      | true => simpa [h] using ih

theorem eq_space_or_tab_of_isIndent {c : Char} (h : isIndent c) : c = ' ' ∨ c = '\t' := by
  simpa [isIndent] using h

theorem byteLength_of_isIndent {indent : Text} (h : ∀ c ∈ indent, isIndent c) :
    byteLength indent = indent.length := by
  induction indent with
  | nil => rfl
  | cons c indent ih =>
    have hrest := ih fun d hd => h d (by simp [hd])
    have hsize : c.utf8Size = 1 := by
      rcases eq_space_or_tab_of_isIndent (h c (by simp)) with rfl | rfl <;> rfl
    rw [byteLength_cons, List.length_cons, hrest, hsize, Nat.add_comm]

theorem exists_utf8EncodeChar_of_isIndent {c : Char} (h : isIndent c) :
    ∃ b, String.utf8EncodeChar c = [b] ∧ isIndentByte b := by
  rcases eq_space_or_tab_of_isIndent h with rfl | rfl
  · exact ⟨0x20, by decide, rfl⟩
  · exact ⟨0x09, by decide, rfl⟩

/-- No other character starts with the byte of a space or a tab. -/
theorem exists_utf8EncodeChar_of_not_isIndent {c : Char} (h : isIndent c = false) :
    ∃ b bytes, String.utf8EncodeChar c = b :: bytes ∧ isIndentByte b = false := by
  simp only [isIndent, Bool.or_eq_false_iff, beq_eq_false_iff_ne] at h
  have hne : String.utf8EncodeChar c ≠ [] := by
    rw [← List.length_pos_iff, String.length_utf8EncodeChar]
    exact c.utf8Size_pos
  obtain ⟨b, bytes, hbytes⟩ := List.exists_cons_of_ne_nil hne
  have hmem : b ∈ String.utf8EncodeChar c := by simp [hbytes]
  have hspace : b ≠ 0x20 := by
    rintro rfl
    exact h.1 (eq_of_mem_utf8EncodeChar (by decide) rfl hmem)
  have htab : b ≠ 0x09 := by
    rintro rfl
    exact h.2 (eq_of_mem_utf8EncodeChar (by decide) rfl hmem)
  exact ⟨b, bytes, hbytes, by simp [isIndentByte, hspace, htab]⟩

/-- The spaces and tabs of a line can be counted in its bytes. -/
theorem length_takeWhile_encode (line : Text) :
    ((encode line).takeWhile isIndentByte).length = indentWidth line := by
  induction line with
  | nil => rfl
  | cons c line ih =>
    rw [encode_cons]
    cases h : isIndent c with
    | false =>
      obtain ⟨b, bytes, hbytes, hb⟩ := exists_utf8EncodeChar_of_not_isIndent h
      simp [hbytes, hb, indentWidth, h]
    | true =>
      obtain ⟨b, hbytes, hb⟩ := exists_utf8EncodeChar_of_isIndent h
      simpa [hbytes, hb, indentWidth, h] using ih

/-- Cutting the bytes of a line gives the bytes of the line that is left, so the cut is never inside
a character. -/
theorem encode_stripIndent (width : Nat) (line : Text) :
    encode (stripIndent width line) = stripIndentBytes width (encode line) := by
  simp only [stripIndentBytes, ← le_length_takeWhile_iff, length_takeWhile_encode]
  by_cases h : width ≤ indentWidth line
  · have hlength : (encode (strippedIndent width line)).length = width := by
      rw [length_encode, byteLength_of_isIndent fun c => isIndent_of_mem_strippedIndent,
        length_strippedIndent h]
    have hbytes : encode line =
        encode (strippedIndent width line) ++ encode (stripIndent width line) := by
      rw [← encode_append, strippedIndent_append_stripIndent]
    rw [if_pos h, hbytes, List.drop_left' hlength]
  · rw [if_neg h, stripIndent, if_neg h]

/-! ## The width of all lines -/

theorem commonIndent_eq_zero {all : List Text} (h : ∀ line ∈ all, ¬ HasContent line) :
    commonIndent all = 0 := by
  have hnone : all.filterMap contentIndent = [] := by
    simpa [hasContent_iff] using h
  simp [commonIndent, hnone]

/-- Some line with content starts with exactly the common width. -/
theorem exists_contentAt_commonIndent {all : List Text} (h : ∃ line ∈ all, HasContent line) :
    ∃ line ∈ all, ContentAt (commonIndent all) line := by
  obtain ⟨line, hline, width, hwidth⟩ := h
  have hmem : width ∈ all.filterMap contentIndent :=
    List.mem_filterMap.mpr ⟨line, hline, contentAt_iff.mp hwidth⟩
  cases hmin : (all.filterMap contentIndent).min? with
  | none => simp [List.min?_eq_none_iff.mp hmin] at hmem
  | some least =>
    have hleast := (List.min?_eq_some_iff.mp hmin).1
    simpa [commonIndent, hmin, contentAt_iff] using hleast

theorem commonIndent_le_indentWidth {all : List Text} {line : Text} (hline : line ∈ all)
    (h : HasContent line) : commonIndent all ≤ indentWidth line := by
  obtain ⟨width, hwidth⟩ := h
  have hcontent := contentAt_iff.mp hwidth
  rw [← contentIndent_eq_some hcontent]
  exact commonIndent_le hline hcontent

theorem isGreatest_commonIndent {all : List Text} (h : ∃ line ∈ all, HasContent line) :
    IsGreatest {width | ∀ line ∈ all, HasContent line → StartsIndented width line}
      (commonIndent all) := by
  constructor
  · intro line hline hcontent
    exact startsIndented_iff.mpr (commonIndent_le_indentWidth hline hcontent)
  · intro width hwidth
    -- the line that attains the common width cannot be cut further
    obtain ⟨line, hline, hcommon⟩ := exists_contentAt_commonIndent h
    have hle := hwidth line hline ⟨_, hcommon⟩
    rwa [startsIndented_iff, ← contentIndent_eq_some (contentAt_iff.mp hcommon)] at hle

/-! ## Reindented texts -/

/-- A text and what is left of it when the indentation is removed that all its lines with content
have in common. Without such lines the text stays as it is. -/
structure RemovesCommonIndent (t : Text) (r : Reindented) : Prop where
  lines_unindent : List.Forall₂ (Unindents r.indentColumns) t.lines r.text.lines
  greatest : (∃ line ∈ t.lines, HasContent line) →
    IsGreatest {width | ∀ line ∈ t.lines, HasContent line → StartsIndented width line}
      r.indentColumns
  attained : (∃ line ∈ t.lines, HasContent line) →
    ∃ line ∈ t.lines, ContentAt r.indentColumns line
  unchanged : (∀ line ∈ t.lines, ¬ HasContent line) → r = ⟨t, 0⟩
  bytes_eq : r.text.lines.map encode =
    t.lines.map fun line => stripIndentBytes r.indentColumns (encode line)

theorem reindent_of_commonIndent_eq_zero {t : Text} (h : commonIndent t.lines = 0) :
    reindent t = ⟨t, 0⟩ := by
  simp [reindent, h]

theorem removesCommonIndent_reindent (t : Text) : RemovesCommonIndent t (reindent t) where
  lines_unindent := forall₂_unindents_iff.mpr (lines_reindent t).symm
  greatest h := by
    rw [indentColumns_reindent]
    exact isGreatest_commonIndent h
  attained h := by
    rw [indentColumns_reindent]
    exact exists_contentAt_commonIndent h
  unchanged h := reindent_of_commonIndent_eq_zero (commonIndent_eq_zero h)
  bytes_eq := by simp [lines_reindent, encode_stripIndent]

theorem RemovesCommonIndent.indentColumns_eq {t : Text} {r : Reindented}
    (h : RemovesCommonIndent t r) : r.indentColumns = commonIndent t.lines := by
  by_cases hcontent : ∃ line ∈ t.lines, HasContent line
  · exact (h.greatest hcontent).unique (isGreatest_commonIndent hcontent)
  · have hnone : ∀ line ∈ t.lines, ¬ HasContent line := by simpa using hcontent
    rw [h.unchanged hnone, commonIndent_eq_zero hnone]

theorem Reindented.eq_of_lines_eq {a b : Reindented} (hwidth : a.indentColumns = b.indentColumns)
    (hlines : a.text.lines = b.text.lines) : a = b := by
  have htext : a.text = b.text := by
    rw [← unlines_lines a.text, hlines, unlines_lines]
  calc
    a = ⟨a.text, a.indentColumns⟩ := rfl
    _ = b := by rw [htext, hwidth]

/-- Reindenting is the removal of the greatest common indentation, and no other function is. -/
theorem reindent_eq_iff (t : Text) (r : Reindented) :
    reindent t = r ↔ RemovesCommonIndent t r := by
  constructor
  · rintro rfl
    exact removesCommonIndent_reindent t
  · intro h
    have hwidth : (reindent t).indentColumns = r.indentColumns := by
      rw [indentColumns_reindent, h.indentColumns_eq]
    apply Reindented.eq_of_lines_eq hwidth
    rw [lines_reindent, hwidth]
    exact forall₂_unindents_iff.mp h.lines_unindent

/-- A line whose indentation runs into another blank neither counts nor loses anything. -/
example : reindent "  a\n \u00a0b\n\t\té".toList = ⟨"a\n \u00a0b\né".toList, 2⟩ := by decide

end Excerpt
