import Excerpt.Frame
import Excerpt.Proofs.Text.Ink
import Excerpt.Proofs.Text.Lines

/-! # What a frame is

The frame of a body is at most one line break in front and at most one blank line behind, with the
break that it follows. So taking it off drops only blanks, and in front only whole lines. -/

namespace Excerpt

open Text

/-! ## The break in front -/

/-- A line feed, with or without a carriage return. -/
def IsLineBreak (t : Text) : Prop :=
  t = ['\n'] ∨ t = ['\r', '\n']

/-- What the opening tag takes of a body, and how many lines end there: the break that the body
starts with, or nothing where it starts with none. -/
inductive OpeningPart (body : Text) : Text → Nat → Prop
  | lineBreak {lead : Text} (hbreak : IsLineBreak lead) (hfront : lead <+: body) :
    OpeningPart body lead 1
  | nothing (h : ∀ lead, IsLineBreak lead → ¬ lead <+: body) : OpeningPart body [] 0

theorem exists_openingPart (body : Text) :
    ∃ lead, OpeningPart body lead (dropOpeningBreak body).skippedLines ∧
      body = lead ++ (dropOpeningBreak body).text := by
  unfold dropOpeningBreak
  split
  · rename_i rest
    exact ⟨['\r', '\n'], .lineBreak (.inr rfl) ⟨rest, rfl⟩, rfl⟩
  · rename_i rest
    exact ⟨['\n'], .lineBreak (.inl rfl) ⟨rest, rfl⟩, rfl⟩
  · rename_i hreturn hfeed
    refine ⟨[], .nothing ?_, rfl⟩
    rintro lead (rfl | rfl) ⟨rest, hbody⟩
    · exact hfeed rest hbody.symm
    · exact hreturn rest hbody.symm

theorem OpeningPart.dropOpeningBreak_eq {lead rest : Text} {skipped : Nat}
    (h : OpeningPart (lead ++ rest) lead skipped) :
    dropOpeningBreak (lead ++ rest) = ⟨rest, skipped⟩ := by
  cases h with
  | lineBreak hbreak hfront => rcases hbreak with rfl | rfl <;> rfl
  | nothing h =>
    unfold dropOpeningBreak
    split
    · rename_i back hbody
      exact absurd ⟨back, hbody.symm⟩ (h ['\r', '\n'] (.inr rfl))
    · rename_i back hbody
      exact absurd ⟨back, hbody.symm⟩ (h ['\n'] (.inl rfl))
    · rfl

/-! ## The blank line behind -/

/-- There are breaks in the text, and only blanks behind the last one. -/
def EndsInBlankLine (t : Text) : Prop :=
  ∃ front last : Text, t = front ++ '\n' :: last ∧ '\n' ∉ last ∧ last.isBlank

/-- A blank line behind `kept`, with the break in front of it. A carriage return belongs to the
break. -/
def IsClosingPart (kept trail : Text) : Prop :=
  ∃ mark last : Text, trail = mark ++ last ∧ IsLineBreak mark ∧ '\n' ∉ last ∧ last.isBlank ∧
    (mark = ['\n'] → kept.getLast? ≠ some '\r')

theorem dropFinalReturn_of_getLast?_ne {t : Text} (h : t.getLast? ≠ some '\r') :
    dropFinalReturn t = t :=
  if_neg h

@[simp] theorem dropFinalReturn_append_return (t : Text) : dropFinalReturn (t ++ ['\r']) = t := by
  simp [dropFinalReturn]

theorem dropClosingLine_of_not_mem {body : Text} (h : '\n' ∉ body) :
    dropClosingLine body = body := by
  simp [dropClosingLine, lines_of_not_mem h]

/-- The line that is dropped is the one behind the last break. -/
theorem dropClosingLine_append_break (front : Text) {last : Text} (h : '\n' ∉ last) :
    dropClosingLine (front ++ '\n' :: last) =
      if last.isBlank then dropFinalReturn front else front ++ '\n' :: last := by
  have hlines : (lines (front ++ '\n' :: last)).reverse = last :: (lines front).reverse := by
    rw [lines_append_break, lines_of_not_mem h]
    simp
  have hfront : unlines (lines front).reverse.reverse = front := by simp
  unfold dropClosingLine
  rw [hlines]
  cases hr : (lines front).reverse with
  | nil => simp [lines_ne_nil] at hr
  | cons previous earlier =>
    rw [hr] at hfront
    simp only [hfront]

theorem dropClosingLine_of_not_endsInBlankLine {body : Text} (h : ¬ EndsInBlankLine body) :
    dropClosingLine body = body := by
  by_cases hm : '\n' ∈ body
  · obtain ⟨front, hbody⟩ := exists_eq_append_lastLine hm
    have hlast := not_mem_lastLine body
    have hblank : ¬ (lastLine body).isBlank := fun hb => h ⟨front, lastLine body, hbody, hlast, hb⟩
    have hdrop := dropClosingLine_append_break front hlast
    rwa [if_neg hblank, ← hbody] at hdrop
  · exact dropClosingLine_of_not_mem hm

theorem IsClosingPart.endsInBlankLine {kept trail : Text} (h : IsClosingPart kept trail) :
    EndsInBlankLine (kept ++ trail) := by
  obtain ⟨mark, last, rfl, hbreak, hlast, hblank, -⟩ := h
  rcases hbreak with rfl | rfl
  · exact ⟨kept, last, rfl, hlast, hblank⟩
  · exact ⟨kept ++ ['\r'], last, by simp, hlast, hblank⟩

theorem IsClosingPart.ne_nil {kept trail : Text} (h : IsClosingPart kept trail) : trail ≠ [] := by
  obtain ⟨mark, last, rfl, rfl | rfl, -⟩ := h <;> simp

theorem IsClosingPart.isBlank {kept trail : Text} (h : IsClosingPart kept trail) :
    trail.isBlank := by
  obtain ⟨mark, last, rfl, rfl | rfl, -, hblank, -⟩ := h
  · exact hblank
  · exact hblank

theorem IsClosingPart.dropClosingLine_append {kept trail : Text} (h : IsClosingPart kept trail) :
    dropClosingLine (kept ++ trail) = kept := by
  obtain ⟨mark, last, rfl, hbreak, hlast, hblank, hreturn⟩ := h
  rcases hbreak with rfl | rfl
  · have hdrop := dropClosingLine_append_break kept hlast
    rwa [if_pos hblank, dropFinalReturn_of_getLast?_ne (hreturn rfl)] at hdrop
  · have hdrop := dropClosingLine_append_break (kept ++ ['\r']) hlast
    rw [if_pos hblank, dropFinalReturn_append_return, List.append_assoc] at hdrop
    exact hdrop

/-- A text that ends in a blank line ends in a closing part. -/
theorem EndsInBlankLine.exists_isClosingPart {t : Text} (h : EndsInBlankLine t) :
    ∃ kept trail, t = kept ++ trail ∧ IsClosingPart kept trail := by
  obtain ⟨front, last, rfl, hlast, hblank⟩ := h
  by_cases hreturn : front.getLast? = some '\r'
  · obtain ⟨kept, rfl⟩ := List.getLast?_eq_some_iff.mp hreturn
    exact ⟨kept, ['\r', '\n'] ++ last, by simp, ['\r', '\n'], last, rfl, .inr rfl, hlast, hblank,
      by simp⟩
  · exact ⟨front, '\n' :: last, rfl, ['\n'], last, rfl, .inl rfl, hlast, hblank, fun _ => hreturn⟩

/-! ## Both parts -/

/-- A body as what its opening tag takes, the text that is left, and what its closing tag takes.
That last part is there exactly when the body ends in a blank line behind the first one. -/
structure Frames (body lead : Text) (framed : Framed) (trail : Text) : Prop where
  body_eq : body = lead ++ (framed.text ++ trail)
  opening : OpeningPart body lead framed.skippedLines
  trail_ne_nil_iff : trail ≠ [] ↔ EndsInBlankLine (framed.text ++ trail)
  closing : trail ≠ [] → IsClosingPart framed.text trail

theorem exists_frames (body : Text) : ∃ lead trail, Frames body lead (frame body) trail := by
  obtain ⟨lead, hopening, hlead⟩ := exists_openingPart body
  by_cases hends : EndsInBlankLine (dropOpeningBreak body).text
  · obtain ⟨kept, trail, hrest, hclosing⟩ := hends.exists_isClosingPart
    have hkept : (frame body).text = kept := by
      have hdrop := hclosing.dropClosingLine_append
      rwa [← hrest] at hdrop
    refine ⟨lead, trail, ?_, hopening, ?_, ?_⟩
    · rwa [hkept, ← hrest]
    · rw [hkept]
      exact iff_of_true hclosing.ne_nil hclosing.endsInBlankLine
    · intro _
      rwa [hkept]
  · have hkept : (frame body).text = (dropOpeningBreak body).text :=
      dropClosingLine_of_not_endsInBlankLine hends
    refine ⟨lead, [], ?_, hopening, ?_, ?_⟩
    · rwa [hkept, List.append_nil]
    · rw [hkept, List.append_nil]
      exact iff_of_false (fun hne => hne rfl) hends
    · exact fun hne => absurd rfl hne

theorem Frames.frame_eq {body lead trail : Text} {framed : Framed}
    (h : Frames body lead framed trail) : frame body = framed := by
  have hopened : dropOpeningBreak body = ⟨framed.text ++ trail, framed.skippedLines⟩ := by
    have hopening := h.opening
    rw [h.body_eq] at hopening ⊢
    exact hopening.dropOpeningBreak_eq
  have hclosed : dropClosingLine (framed.text ++ trail) = framed.text := by
    by_cases hnil : trail = []
    · have hends := fun he => h.trail_ne_nil_iff.mpr he hnil
      rw [dropClosingLine_of_not_endsInBlankLine hends, hnil, List.append_nil]
    · exact (h.closing hnil).dropClosingLine_append
  calc
    frame body = ⟨dropClosingLine (framed.text ++ trail), framed.skippedLines⟩ := by
      rw [frame, hopened]
    _ = framed := by rw [hclosed]

/-- Every body splits at its frame in one way only. -/
theorem frame_eq_iff {body : Text} {framed : Framed} :
    frame body = framed ↔ ∃ lead trail, Frames body lead framed trail := by
  constructor
  · rintro rfl
    exact exists_frames body
  · rintro ⟨lead, trail, h⟩
    exact h.frame_eq

/-! ## Blanks and lines of a frame -/

/-- A frame is blank, and its opening part is either empty or one whole line. -/
structure FrameParts (body lead trail : Text) : Prop where
  body_eq : body = lead ++ (frame body).text ++ trail
  lead_isBlank : lead.isBlank
  trail_isBlank : trail.isBlank
  lead_breaks : lead.breaks = (frame body).skippedLines
  lead_lastLine : lead.lastLine = []
  lead_eq_nil : (frame body).skippedLines = 0 → lead = []

theorem OpeningPart.whole_lines {body lead : Text} {skipped : Nat}
    (h : OpeningPart body lead skipped) :
    lead.isBlank ∧ lead.breaks = skipped ∧ lead.lastLine = [] ∧ (skipped = 0 → lead = []) := by
  cases h with
  | lineBreak hbreak => rcases hbreak with rfl | rfl <;> exact ⟨rfl, rfl, rfl, by simp⟩
  | nothing => exact ⟨rfl, rfl, rfl, fun _ => rfl⟩

theorem Frames.trail_isBlank {body lead trail : Text} {framed : Framed}
    (h : Frames body lead framed trail) : trail.isBlank := by
  by_cases hnil : trail = []
  · rw [hnil]
    rfl
  · exact (h.closing hnil).isBlank

theorem exists_frameParts (body : Text) : ∃ lead trail, FrameParts body lead trail := by
  obtain ⟨lead, trail, h⟩ := exists_frames body
  obtain ⟨hblank, hbreaks, hlast, hnil⟩ := h.opening.whole_lines
  refine ⟨lead, trail, ?_, hblank, h.trail_isBlank, hbreaks, hlast, hnil⟩
  rw [List.append_assoc]
  exact h.body_eq

theorem FrameParts.breaks_eq {body lead trail : Text} (h : FrameParts body lead trail) :
    body.breaks = (frame body).skippedLines + (frame body).text.breaks + trail.breaks := by
  rw [← h.lead_breaks, ← breaks_append, ← breaks_append, ← h.body_eq]

/-- The line that the framed text starts on. -/
theorem FrameParts.lastLine_append {body lead trail : Text} (h : FrameParts body lead trail)
    (front : Text) :
    lastLine (front ++ lead) = if (frame body).skippedLines = 0 then lastLine front else [] := by
  by_cases hskip : (frame body).skippedLines = 0
  · rw [h.lead_eq_nil hskip, List.append_nil, if_pos hskip]
  · have hmem : '\n' ∈ lead := by
      rw [← h.lead_breaks, breaks_eq_zero_iff, Classical.not_not] at hskip
      exact hskip
    rw [lastLine_append_of_mem front hmem, h.lead_lastLine, if_neg hskip]

/-- Taking the frame off keeps the ink. -/
theorem ink_frame (body : Text) : ink (frame body).text = ink body := by
  obtain ⟨lead, trail, h⟩ := exists_frameParts body
  have hink := congrArg ink h.body_eq
  rw [ink_append, ink_append, ink_of_isBlank h.lead_isBlank, ink_of_isBlank h.trail_isBlank] at hink
  simpa using hink.symm

end Excerpt
