import Excerpt.Processor
import Excerpt.Proofs.Frame
import Excerpt.Proofs.LineCounter
import Excerpt.Proofs.Region.DefaultTags
import Excerpt.Proofs.Reindent

/-! # What an extraction holds

An extraction is made of one block of lines for each snippet that is not blank. A block depends on
its snippet and the host text alone, and no ink is lost on the way. -/

namespace Excerpt

open Text

namespace Snippet

/-! ## Blocks -/

/-- The text of a snippet as it stands in the synthetic document. -/
def block (s : Snippet) : Reindented :=
  reindent (frame s.body).text

/-- Whether a snippet takes part in the synthetic document. -/
def isKept (s : Snippet) : Bool :=
  !s.body.isBlank

/-- The number of lines of a snippet without its frame. -/
def lineCount (s : Snippet) : Nat :=
  1 + (frame s.body).text.breaks

/-- The host line that the first line of a snippet without its frame is on. -/
def firstHostLine (s : Snippet) (host : Text) : Nat :=
  1 + host.breaksBefore (min s.bodyOffset host.byteLength) + (frame s.body).skippedLines

/-- The origins of the lines of a snippet. -/
def origins (s : Snippet) (host : Text) : List LineOrigin :=
  consecutiveOrigins (s.firstHostLine host) s.block.indentColumns s.lineCount

/-- The lines of a snippet, each with a line break behind it. -/
def written (s : Snippet) : Text :=
  s.block.text ++ ['\n']

theorem ink_block (s : Snippet) : ink s.block.text = ink s.body :=
  (ink_reindent _).trans (ink_frame _)

/-- A snippet is left out exactly when its body is blank. -/
theorem isBlank_block (s : Snippet) : s.block.text.isBlank = !s.isKept := by
  rw [isBlank_congr s.ink_block, isKept, Bool.not_not]

theorem breaks_block (s : Snippet) : s.block.text.breaks = (frame s.body).text.breaks :=
  breaks_reindent _

theorem length_lines_block (s : Snippet) : s.block.text.lines.length = s.lineCount := by
  rw [length_lines, breaks_block, lineCount, Nat.add_comm]

theorem breaks_written (s : Snippet) : s.written.breaks = s.lineCount := by
  rw [written, breaks_append, breaks_block, lineCount, Nat.add_comm]
  rfl

end Snippet

/-! ## Extractions -/

/-- The synthetic document, block after block. The counter leaves no trace in it. -/
theorem joinSnippets_eq {counter : LineCounter} {host : Text} (h : counter.Counts host)
    (snippets : List Snippet) :
    joinSnippets counter snippets =
      ⟨(snippets.filter Snippet.isKept).flatMap Snippet.written,
        (snippets.filter Snippet.isKept).flatMap fun s => s.origins host⟩ := by
  induction snippets generalizing counter with
  | nil => rfl
  | cons s rest ih =>
    have hblank : (reindent (frame s.body).text).text.isBlank = !s.isKept := s.isBlank_block
    cases hkept : s.isKept with
    | false =>
      simp only [joinSnippets, hblank, hkept, List.filter_cons]
      simpa using ih h
    | true =>
      have hline : (counter.lineAt s.bodyOffset).1 + (frame s.body).skippedLines =
          s.firstHostLine host := by
        rw [h.lineAt]
        rfl
      have hcount : (reindent (frame s.body).text).text.lines.length = s.lineCount :=
        s.length_lines_block
      simp only [joinSnippets, hblank, hkept, List.filter_cons, Bool.not_true, Bool.false_eq_true,
        if_false, if_true, List.flatMap_cons, hline, hcount, ih (h.lineAt_snd s.bodyOffset)]
      simp [Snippet.written, Snippet.origins, Snippet.block]

/-- Leaving out blank snippets keeps the ink, and so does every block. -/
theorem ink_flatMap_written (snippets : List Snippet) :
    ink ((snippets.filter Snippet.isKept).flatMap Snippet.written) =
      snippets.flatMap fun s => ink s.body := by
  induction snippets with
  | nil => rfl
  | cons s rest ih =>
    cases hkept : s.isKept with
    | false =>
      have hblank : s.body.isBlank := by simpa [Snippet.isKept] using hkept
      simp [hkept, ih, ink_of_isBlank hblank]
    | true =>
      have hink : ink s.written = ink s.body := by
        rw [Snippet.written, ink_append, ink_cons_break, ink_nil, List.append_nil,
          Snippet.ink_block]
      simp [hkept, ih, hink]

namespace Processor

/-- The snippets of a host text that take part in its synthetic document. -/
def keptSnippets (p : Processor) (host : Text) : List Snippet :=
  (p.finder.snippets host).filter Snippet.isKept

theorem synthesize_eq (p : Processor) (host : Text) :
    p.synthesize host = ⟨(p.keptSnippets host).flatMap Snippet.written,
      (p.keptSnippets host).flatMap fun s => s.origins host⟩ :=
  joinSnippets_eq (LineCounter.counts_ofText host) _

theorem extract_fst {p : Processor} {document : DocumentId} (h : p.accepts document)
    (host : Text) :
    (p.extract host document).1 = (p.keptSnippets host).flatMap Snippet.written := by
  simp only [extract, h, if_true, synthesize_eq]

theorem lineMap?_extract {p : Processor} {document : DocumentId} (h : p.accepts document)
    (host : Text) :
    (p.extract host document).2.lineMap? document =
      some ⟨(p.keptSnippets host).flatMap fun s => s.origins host⟩ := by
  simp only [extract, h, if_true, synthesize_eq, lineMap?, MapStore.get?_insert]

/-- The stored map is built line by line: for one snippet after the other, the origins of its lines
are pushed in turn. -/
theorem lineMap?_extract_eq_foldl {p : Processor} {document : DocumentId}
    (h : p.accepts document) (host : Text) :
    (p.extract host document).2.lineMap? document =
      some ((p.keptSnippets host).foldl (fun map s => map.pushAll (s.origins host)) .empty) := by
  have hpushed := LineMap.pushAll_eq .empty
    ((p.keptSnippets host).flatMap fun s => s.origins host)
  rw [LineMap.pushAll, List.foldl_flatMap] at hpushed
  rw [lineMap?_extract h]
  exact congrArg some hpushed.symm

/-- No content is lost, doubled or moved: the ink of the synthetic document is the ink of the
bodies, one after the other. -/
theorem ink_extract (p : Processor) (host : Text) (document : DocumentId)
    (haccepts : p.accepts document) :
    ink (p.extract host document).1 = (p.finder.snippets host).flatMap fun s => ink s.body := by
  rw [extract_fst haccepts]
  exact ink_flatMap_written (p.finder.snippets host)

/-- A blank snippet, a guarded one, and two with blanks of several kinds. -/
theorem ink_extract_four_tags :
    Processor.ofConfig {} = .ok .default ∧ Processor.default.accepts ⟨"page.html"⟩ ∧
      ink (Processor.default.extract
        ("<style>\r\n\ta :\r\n b\r\n</style><style>\n</style>".toList ++
          "'<style>q</style>' <style>\u00a0c</style>".toList) ⟨"page.html"⟩).1 =
        ['a', ':', 'b', 'c'] := by
  refine ⟨ofConfig_default, rfl, ?_⟩
  rw [ink_extract .default _ ⟨"page.html"⟩ rfl]
  decide +kernel

end Processor

end Excerpt
