import Excerpt.Proofs.Extraction.Content

/-! # Frames and blank snippets

Neither the frame of a body nor its indentation holds any ink, so a snippet is blank before they are
taken off exactly when it is blank afterwards. Such snippets, and no others, leave no trace in the
synthetic document. -/

namespace Excerpt

open Text

theorem isBlank_frame (body : Text) : (frame body).text.isBlank = body.isBlank :=
  isBlank_congr (ink_frame body)

theorem isBlank_reindent_frame (body : Text) :
    (reindent (frame body).text).text.isBlank = body.isBlank :=
  (isBlank_congr (ink_reindent _)).trans (isBlank_frame body)

namespace Snippet

theorem written_ne_nil (s : Snippet) : s.written ≠ [] := by
  simp [written]

/-- A snippet among others is written exactly when it is kept. -/
theorem flatMap_written_middle_iff (before after : List Snippet) (s : Snippet) :
    ((before ++ s :: after).filter isKept).flatMap written =
        ((before ++ after).filter isKept).flatMap written ↔
      s.isKept = false := by
  cases hkept : s.isKept with
  | false => simp [hkept]
  | true => simp [hkept, s.written_ne_nil]

end Snippet

namespace Processor

/-- The synthetic document and its line map come from these snippets alone. -/
def ExtractsOnly (p : Processor) (host : Text) (document : DocumentId)
    (snippets : List Snippet) : Prop :=
  (p.extract host document).1 = (joinSnippets (.ofText host) snippets).text ∧
    (p.extract host document).2.lineMap? document =
      some ⟨(joinSnippets (.ofText host) snippets).origins⟩

/-- A snippet can be taken out of a host text without a trace exactly when its body is blank. -/
theorem extractsOnly_others_iff {p : Processor} {host : Text} {document : DocumentId}
    {before after : List Snippet} {s : Snippet} (haccepts : p.accepts document)
    (hsnippets : p.finder.snippets host = before ++ s :: after) :
    p.ExtractsOnly host document (before ++ after) ↔ s.body.isBlank := by
  have hkept : s.isKept = false ↔ s.body.isBlank := by simp [Snippet.isKept]
  rw [ExtractsOnly, extract_fst haccepts, lineMap?_extract haccepts,
    joinSnippets_eq (LineCounter.counts_ofText host), keptSnippets, hsnippets, ← hkept]
  constructor
  · rintro ⟨htext, -⟩
    exact (Snippet.flatMap_written_middle_iff before after s).mp htext
  · intro hnot
    simp [hnot]

end Processor

/-! ## Bodies -/

/-- What can be said of every body. It splits at its frame in one way, it is blank exactly when the
text in the frame is, indented or not, and exactly then a snippet with this body is left out of a
synthetic document. -/
structure FrameRules (body : Text) : Prop where
  frame_iff : ∀ framed, frame body = framed ↔ ∃ lead trail, Frames body lead framed trail
  isBlank_iff : body.isBlank ↔ (frame body).text.isBlank
  isBlank_block_iff : body.isBlank ↔ (reindent (frame body).text).text.isBlank
  leftOut_iff : ∀ (p : Processor) (host : Text) (document : DocumentId), p.accepts document →
    ∀ before s after, p.finder.snippets host = before ++ s :: after → s.body = body →
      (p.ExtractsOnly host document (before ++ after) ↔ body.isBlank)

/-- Framing drops the two breaks of the frame with the blanks around them, and nothing else. -/
theorem frame_frameRules (body : Text) : FrameRules body where
  frame_iff _ := frame_eq_iff
  isBlank_iff := by rw [isBlank_frame]
  isBlank_block_iff := by rw [isBlank_reindent_frame]
  leftOut_iff p host document haccepts before s after hsnippets hbody := by
    rw [← hbody]
    exact Processor.extractsOnly_others_iff haccepts hsnippets

/-- Breaks of both kinds, one break that is only in front, and a carriage return on its own. -/
example : ["\r\n a\r\n\u00a0", "\n", "\n\n", "\ra\r\n", "a\n b"].map
    (fun body => frame body.toList) =
      [⟨" a".toList, 1⟩, ⟨[], 1⟩, ⟨[], 1⟩, ⟨"\ra".toList, 0⟩, ⟨"a\n b".toList, 0⟩] := by decide

end Excerpt
