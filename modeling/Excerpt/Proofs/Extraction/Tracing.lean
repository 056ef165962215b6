import Excerpt.Proofs.Extraction.Content

/-! # Tracing lines

A line of a synthetic document is a line of one snippet, and the line map leads it to the host line
that it stands on. -/

namespace Excerpt

open Text

theorem exists_of_getElem?_flatMap {α β : Type} {f : α → List β} {all : List α} {i : Nat} {b : β}
    (h : (all.flatMap f)[i]? = some b) :
    ∃ earlier a later j, all = earlier ++ a :: later ∧ i = (earlier.flatMap f).length + j ∧
      (f a)[j]? = some b := by
  induction all generalizing i with
  | nil => simp at h
  | cons a rest ih =>
    rw [List.flatMap_cons] at h
    by_cases hi : i < (f a).length
    · rw [List.getElem?_append_left hi] at h
      exact ⟨[], a, rest, i, rfl, by simp, h⟩
    · have hle : (f a).length ≤ i := Nat.le_of_not_lt hi
      rw [List.getElem?_append_right hle] at h
      obtain ⟨earlier, b, later, j, hrest, hindex, hb⟩ := ih h
      refine ⟨a :: earlier, b, later, j, by rw [hrest]; rfl, ?_, hb⟩
      rw [List.flatMap_cons, List.length_append]
      omega

namespace Snippet

/-! ## Lines of blocks -/

/-- The number of lines that several snippets take in a synthetic document. -/
def totalLines : List Snippet → Nat
  | [] => 0
  | s :: rest => s.lineCount + totalLines rest

theorem length_origins (s : Snippet) (host : Text) : (s.origins host).length = s.lineCount := by
  simp [origins, consecutiveOrigins]

theorem length_flatMap_origins (snippets : List Snippet) (host : Text) :
    (snippets.flatMap fun s => s.origins host).length = totalLines snippets := by
  induction snippets with
  | nil => rfl
  | cons s rest ih =>
    rw [List.flatMap_cons, List.length_append, length_origins, ih]
    rfl

theorem getElem?_origins {s : Snippet} {host : Text} {j : Nat} {origin : LineOrigin}
    (h : (s.origins host)[j]? = some origin) :
    j < s.lineCount ∧ origin = ⟨s.firstHostLine host + j, s.block.indentColumns⟩ := by
  have hj : j < s.lineCount := by
    have hlt := (List.getElem?_eq_some_iff.mp h).1
    rwa [length_origins] at hlt
  refine ⟨hj, ?_⟩
  simpa [origins, consecutiveOrigins, hj] using h.symm

theorem breaks_flatMap_written (snippets : List Snippet) :
    breaks (snippets.flatMap written) = totalLines snippets := by
  induction snippets with
  | nil => rfl
  | cons s rest ih =>
    rw [List.flatMap_cons, breaks_append, breaks_written, ih]
    rfl

theorem flatMap_written_eq (snippets : List Snippet) :
    snippets.flatMap written = [] ∨ ∃ front, snippets.flatMap written = front ++ ['\n'] := by
  cases h : snippets.reverse with
  | nil =>
    left
    rw [List.reverse_eq_nil_iff.mp h]
    rfl
  | cons s rest =>
    right
    have hsplit : snippets = rest.reverse ++ [s] := by
      rw [← List.reverse_reverse snippets, h]
      simp
    refine ⟨rest.reverse.flatMap written ++ s.block.text, ?_⟩
    rw [hsplit, List.flatMap_append, List.flatMap_singleton, written, ← List.append_assoc]

theorem lastLine_flatMap_written (snippets : List Snippet) :
    lastLine (snippets.flatMap written) = [] := by
  rcases flatMap_written_eq snippets with hnil | ⟨front, hfront⟩
  · rw [hnil]
    rfl
  · rw [hfront]
    exact lastLine_append_singleton_break front

/-- The lines of a block are lines of the synthetic document, behind those of earlier blocks. -/
theorem getElem?_lines_written {s : Snippet} {line : Text} {j : Nat} (earlier later : List Snippet)
    (h : s.block.text.lines[j]? = some line) :
    (lines ((earlier ++ s :: later).flatMap written))[totalLines earlier + j]? = some line := by
  have htext : (earlier ++ s :: later).flatMap written =
      earlier.flatMap written ++ s.block.text ++ '\n' :: later.flatMap written := by
    simp [written]
  have hline := getElem?_lines_middle (earlier.flatMap written) ('\n' :: later.flatMap written) h
  rw [← htext, breaks_flatMap_written, lastLine_flatMap_written] at hline
  simpa using hline

/-! ## Lines of the host -/

theorem Placed.firstHostLine_eq {s : Snippet} {host front back : Text}
    (h : s.Placed host front back) :
    s.firstHostLine host = 1 + front.breaks + (frame s.body).skippedLines := by
  have hle : s.bodyOffset ≤ host.byteLength := by
    rw [← h.byteLength_front, h.host_eq, byteLength_append, byteLength_append]
    omega
  have hbreaks : host.breaksBefore s.bodyOffset = front.breaks := by
    rw [← h.byteLength_front, h.host_eq, List.append_assoc]
    exact breaksBefore_append front _
  rw [firstHostLine, Nat.min_eq_left hle, hbreaks]

/-- A line of a framed body stands on the host line that is counted for it. In front of it stands
something only on the line of the opening tag, and behind it only on the line of the last one. -/
theorem Placed.exists_hostLine {s : Snippet} {host front back framed : Text} {j : Nat}
    (h : s.Placed host front back) (hframed : (frame s.body).text.lines[j]? = some framed) :
    ∃ rest, host.lines[s.firstHostLine host + j - 1]? =
        some ((if j = 0 ∧ (frame s.body).skippedLines = 0 then front.lastLine else []) ++ framed ++
          rest) ∧
      (j + 1 < s.lineCount → rest = []) := by
  obtain ⟨lead, trail, hparts⟩ := exists_frameParts s.body
  have hhost : host = (front ++ lead) ++ (frame s.body).text ++ (trail ++ back) := by
    calc
      host = front ++ s.body ++ back := h.host_eq
      _ = front ++ (lead ++ (frame s.body).text ++ trail) ++ back := by rw [← hparts.body_eq]
      _ = (front ++ lead) ++ (frame s.body).text ++ (trail ++ back) := by simp
  have hindex : s.firstHostLine host + j - 1 = breaks (front ++ lead) + j := by
    rw [h.firstHostLine_eq, breaks_append, hparts.lead_breaks]
    omega
  have hline := getElem?_lines_middle (front ++ lead) (trail ++ back) hframed
  rw [← hhost, hparts.lastLine_append] at hline
  have htag : (if j = 0 then if (frame s.body).skippedLines = 0 then front.lastLine else []
      else []) = if j = 0 ∧ (frame s.body).skippedLines = 0 then front.lastLine else [] := by
    by_cases hj : j = 0 <;> simp [hj]
  rw [hindex, hline, htag]
  refine ⟨_, rfl, ?_⟩
  intro hj
  have hne : j ≠ (frame s.body).text.breaks := by
    rw [lineCount] at hj
    omega
  exact if_neg hne

end Snippet

/-! ## Traces -/

/-- A line of a synthetic document traced to its place in the host text. It is line `index` of a
snippet without its frame, from which `indent` was removed. On its host line it stands behind `tag`
and `indent` and in front of `rest`. -/
structure LineTrace (snippets : List Snippet) (host text : Text) (number : Nat)
    (origin : LineOrigin) where
  earlier : List Snippet
  snippet : Snippet
  later : List Snippet
  index : Nat
  front : Text
  back : Text
  tag : Text
  indent : Text
  line : Text
  rest : Text
  snippets_eq : snippets = earlier ++ snippet :: later
  number_eq : number = Snippet.totalLines earlier + index + 1
  index_lt : index < snippet.lineCount
  placed : snippet.Placed host front back
  line_eq : text.lines[number - 1]? = some line
  framed_eq : (frame snippet.body).text.lines[index]? = some (indent ++ line)
  one_le_hostLine : 1 ≤ origin.hostLine
  hostLine_eq : host.lines[origin.hostLine - 1]? = some (tag ++ indent ++ line ++ rest)
  tag_eq : tag = if index = 0 ∧ (frame snippet.body).skippedLines = 0 then front.lastLine else []
  rest_eq_nil : index + 1 < snippet.lineCount → rest = []
  isIndent_indent : ∀ c ∈ indent, isIndent c
  length_indent : origin.indentColumns ≤ indentWidth (indent ++ line) →
    indent.length = origin.indentColumns
  indent_eq_nil : indentWidth (indent ++ line) < origin.indentColumns → indent = []
  indentColumns_le : (contentIndent (indent ++ line)).isSome →
    origin.indentColumns ≤ indentWidth (indent ++ line)

theorem nonempty_lineTrace {snippets : List Snippet} {host : Text} {i : Nat} {origin : LineOrigin}
    (hplaced : ∀ s ∈ snippets, ∃ front back, s.Placed host front back)
    (h : (snippets.flatMap fun s => s.origins host)[i]? = some origin) :
    Nonempty (LineTrace snippets host (snippets.flatMap Snippet.written) (i + 1) origin) := by
  obtain ⟨earlier, s, later, j, rfl, hi, horigin⟩ := exists_of_getElem?_flatMap h
  rw [Snippet.length_flatMap_origins] at hi
  obtain ⟨hj, rfl⟩ := Snippet.getElem?_origins horigin
  obtain ⟨front, back, hs⟩ := hplaced s (by simp)
  have hlength : j < (frame s.body).text.lines.length := by
    rw [length_lines, Nat.add_comm]
    exact hj
  obtain ⟨framed, hframed⟩ : ∃ framed, (frame s.body).text.lines[j]? = some framed :=
    ⟨_, List.getElem?_eq_getElem hlength⟩
  obtain ⟨rest, hhost, hrest⟩ := hs.exists_hostLine hframed
  have hsplit := strippedIndent_append_stripIndent s.block.indentColumns framed
  have hblock : s.block.text.lines[j]? = some (stripIndent s.block.indentColumns framed) := by
    rw [Snippet.block, lines_reindent, List.getElem?_map, hframed]
    rfl
  refine ⟨{
    earlier := earlier
    snippet := s
    later := later
    index := j
    front := front
    back := back
    tag := if j = 0 ∧ (frame s.body).skippedLines = 0 then front.lastLine else []
    indent := strippedIndent s.block.indentColumns framed
    line := stripIndent s.block.indentColumns framed
    rest := rest
    snippets_eq := rfl
    number_eq := by rw [hi]
    index_lt := hj
    placed := hs
    line_eq := ?_
    framed_eq := by rw [hsplit, hframed]
    one_le_hostLine := ?_
    hostLine_eq := ?_
    tag_eq := rfl
    rest_eq_nil := hrest
    isIndent_indent := fun c hc => isIndent_of_mem_strippedIndent hc
    length_indent := ?_
    indent_eq_nil := ?_
    indentColumns_le := ?_ }⟩
  · rw [hi]
    exact Snippet.getElem?_lines_written earlier later hblock
  · simp only [hs.firstHostLine_eq]
    omega
  · rw [List.append_assoc _ (strippedIndent _ _), hsplit]
    exact hhost
  · rw [hsplit]
    exact length_strippedIndent
  · rw [hsplit]
    exact strippedIndent_eq_nil
  · rw [hsplit]
    exact indentColumns_reindent_le (List.mem_of_getElem? hframed)

theorem Processor.exists_placed_of_mem_keptSnippets {p : Processor} {host : Text}
    (haligned : p.finder.AlignedIn host) :
    ∀ s ∈ p.keptSnippets host, ∃ front back, s.Placed host front back := by
  intro s hs
  exact (RegionFinder.placedInOrder_snippets haligned).exists_placed (List.mem_filter.mp hs).1

/-- Every entry of the stored line map leads to the host line that its synthetic line stands on. -/
theorem Processor.extract_traces_lines (p : Processor) (host : Text) (document : DocumentId)
    (haccepts : p.accepts document) (haligned : p.finder.AlignedIn host) :
    ∃ map, (p.extract host document).2.lineMap? document = some map ∧
      ∀ number origin, map.get? number = some origin →
        Nonempty (LineTrace (p.keptSnippets host) host (p.extract host document).1 number
          origin) := by
  refine ⟨_, lineMap?_extract haccepts host, ?_⟩
  intro number origin h
  obtain ⟨i, rfl, hi⟩ := LineMap.exists_of_get?_eq_some h
  rw [extract_fst haccepts]
  exact nonempty_lineTrace (exists_placed_of_mem_keptSnippets haligned) hi

/-- The second line of a snippet that starts on the line of its opening tag, with the closing tag
behind it. -/
theorem Processor.extract_traces_lines_inline :
    Processor.ofConfig {} = .ok .default ∧ Processor.default.accepts ⟨"page.html"⟩ ∧
      Processor.default.finder.AlignedIn "<p>\n<style>  a\r\n\t\tb</style>".toList ∧
      Nonempty (LineTrace
        (Processor.default.keptSnippets "<p>\n<style>  a\r\n\t\tb</style>".toList)
        "<p>\n<style>  a\r\n\t\tb</style>".toList "a\r\nb\n".toList 2 ⟨3, 2⟩) := by
  have haligned := RegionFinder.alignedIn_default "<p>\n<style>  a\r\n\t\tb</style>".toList
  refine ⟨ofConfig_default, rfl, haligned, ?_⟩
  obtain ⟨map, hmap, htrace⟩ := extract_traces_lines .default _ ⟨"page.html"⟩ rfl haligned
  have hstored : (Processor.default.extract "<p>\n<style>  a\r\n\t\tb</style>".toList
      ⟨"page.html"⟩).2.lineMap? ⟨"page.html"⟩ = some ⟨[⟨2, 2⟩, ⟨3, 2⟩]⟩ := by
    decide +kernel
  have htext : (Processor.default.extract "<p>\n<style>  a\r\n\t\tb</style>".toList
      ⟨"page.html"⟩).1 = "a\r\nb\n".toList := by
    decide +kernel
  obtain rfl := Option.some.inj (hmap.symm.trans hstored)
  rw [htext] at htrace
  exact htrace 2 ⟨3, 2⟩ rfl

end Excerpt
