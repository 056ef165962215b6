import Excerpt.Proofs.Extraction.Tracing

/-! # Moving columns

Columns are shifted by one width for the whole snippet. That is the column on the host line for
every line that the width was removed from. A line that starts with fewer spaces and tabs, and then
with another blank, has lost nothing and is shifted all the same. -/

namespace Excerpt

open Text

/-! ## Columns of a traced line -/

namespace LineTrace

variable {snippets : List Snippet} {host text : Text} {number : Nat} {origin : LineOrigin}
  (trace : LineTrace snippets host text number origin)

/-- The column on the host line where a column of the synthetic line stands. -/
def hostColumn (column : Nat) : Nat :=
  trace.tag.length + trace.indent.length + column

/-- The line stands on the host line of its own opening tag. -/
def SharesTagLine : Prop :=
  trace.index = 0 ∧ (frame trace.snippet.body).skippedLines = 0

theorem snippet_mem : trace.snippet ∈ snippets := by
  have hmem : trace.snippet ∈ trace.earlier ++ trace.snippet :: trace.later := by simp
  exact (congrArg (trace.snippet ∈ ·) trace.snippets_eq).mpr hmem

theorem tag_eq_nil (h : ¬ trace.SharesTagLine) : trace.tag = [] := by
  rw [trace.tag_eq]
  exact if_neg h

/-- The same character stands at both columns. -/
theorem exists_char_hostColumn {column : Nat} (hpos : 1 ≤ column)
    (hle : column ≤ trace.line.length) :
    ∃ hostLine char, host.lines[origin.hostLine - 1]? = some hostLine ∧
      trace.line[column - 1]? = some char ∧
      hostLine[trace.hostColumn column - 1]? = some char := by
  have hlt : column - 1 < trace.line.length := by omega
  refine ⟨_, trace.line[column - 1], trace.hostLine_eq, List.getElem?_eq_getElem hlt, ?_⟩
  have hindex : trace.hostColumn column - 1 =
      (trace.tag ++ trace.indent).length + (column - 1) := by
    rw [hostColumn, List.length_append]
    omega
  rw [hindex, List.append_assoc, List.getElem?_append_right (Nat.le_add_right _ _),
    Nat.add_sub_cancel_left, List.getElem?_append_left hlt]
  exact List.getElem?_eq_getElem hlt

/-- The recorded width was removed exactly where the line starts with so many spaces and tabs. -/
theorem length_indent_eq_iff :
    trace.indent.length = origin.indentColumns ↔
      origin.indentColumns ≤ indentWidth (trace.indent ++ trace.line) := by
  refine ⟨?_, trace.length_indent⟩
  intro hlength
  apply Nat.le_of_not_lt
  intro hlt
  rw [trace.indent_eq_nil hlt] at hlength
  simp only [List.length_nil] at hlength
  omega

end LineTrace

/-! ## Moving diagnostics -/

theorem Diagnostic.remap_of_get? {d : Diagnostic} {map : LineMap} {number column : Nat}
    {origin : LineOrigin} (hline : d.line = some number) (hcolumn : d.column = some column)
    (hget : map.get? number = some origin) (hmax : column + origin.indentColumns ≤ maxWord) :
    d.remap map = { d with
      line := some origin.hostLine
      column := some (column + origin.indentColumns) } := by
  simp only [remap, hline, hcolumn, Option.bind_some, hget, Option.map_some, shiftColumn,
    Nat.min_eq_left hmax]

namespace Processor

/-- After an extraction, the diagnostics that are not ignored move by the stored map. -/
theorem remap_extract {p : Processor} {host : Text} {document : DocumentId} {map : LineMap}
    (haccepts : p.accepts document)
    (hmap : (p.extract host document).2.lineMap? document = some map)
    (diagnostics : List Diagnostic) :
    (p.extract host document).2.remap diagnostics document =
      .ok ((diagnostics.filter fun d => !p.config.ignoresRule d.rule).map
        (Diagnostic.remap map)) := by
  have haccepts' : (p.extract host document).2.accepts document := by
    simp only [extract, haccepts, if_true]
    exact haccepts
  have hconfig : (p.extract host document).2.config = p.config := by
    simp only [extract, haccepts, if_true]
  simp only [remap, haccepts', if_true, hmap, hconfig]

/-- Wherever a diagnostic stands among others, remapping puts `moved` in its place. -/
def Moves (p : Processor) (document : DocumentId) (d moved : Diagnostic) : Prop :=
  ∀ before after, ∃ movedBefore movedAfter, p.remap before document = .ok movedBefore ∧
    p.remap after document = .ok movedAfter ∧
    p.remap (before ++ d :: after) document = .ok (movedBefore ++ moved :: movedAfter)

theorem moves_extract {p : Processor} {host : Text} {document : DocumentId} {map : LineMap}
    {d : Diagnostic} (haccepts : p.accepts document)
    (hmap : (p.extract host document).2.lineMap? document = some map)
    (hrule : p.config.ignoresRule d.rule = false) :
    (p.extract host document).2.Moves document d (d.remap map) := by
  intro before after
  refine ⟨_, _, remap_extract haccepts hmap before, remap_extract haccepts hmap after, ?_⟩
  rw [remap_extract haccepts hmap, List.filter_append, List.filter_cons]
  simp [hrule]

/-- Every mapped line can be traced. On a line that does not stand behind its own opening tag, a
diagnostic moves to its host line and is shifted by the width of its snippet. That is the place of
the very same character exactly when the line started with so many spaces and tabs. -/
theorem remap_extract_column_iff (p : Processor) (host : Text) (document : DocumentId)
    (haccepts : p.accepts document) (haligned : p.finder.AlignedIn host) :
    ∃ map, (p.extract host document).2.lineMap? document = some map ∧
      ∀ number origin, map.get? number = some origin →
        Nonempty (LineTrace (p.keptSnippets host) host (p.extract host document).1 number origin) ∧
        ∀ trace : LineTrace (p.keptSnippets host) host (p.extract host document).1 number origin,
          ¬ trace.SharesTagLine →
          ∀ (d : Diagnostic) (column : Nat), d.line = some number → d.column = some column →
            p.config.ignoresRule d.rule = false → 1 ≤ column → column ≤ trace.line.length →
            column + origin.indentColumns ≤ maxWord →
            (p.extract host document).2.Moves document d { d with
              line := some origin.hostLine
              column := some (column + origin.indentColumns) } ∧
            (∃ hostLine char, host.lines[origin.hostLine - 1]? = some hostLine ∧
              trace.line[column - 1]? = some char ∧
              hostLine[trace.hostColumn column - 1]? = some char) ∧
            (column + origin.indentColumns = trace.hostColumn column ↔
              origin.indentColumns ≤ indentWidth (trace.indent ++ trace.line)) := by
  have hmap := lineMap?_extract haccepts host
  refine ⟨_, hmap, ?_⟩
  intro number origin hget
  refine ⟨?_, ?_⟩
  · obtain ⟨i, rfl, hi⟩ := LineMap.exists_of_get?_eq_some hget
    rw [extract_fst haccepts host]
    exact nonempty_lineTrace (exists_placed_of_mem_keptSnippets haligned) hi
  intro trace htag d column hline hcolumn hrule hpos hle hmax
  refine ⟨?_, trace.exists_char_hostColumn hpos hle, ?_⟩
  · rw [← Diagnostic.remap_of_get? hline hcolumn hget hmax]
    exact moves_extract haccepts hmap hrule
  · rw [← trace.length_indent_eq_iff, LineTrace.hostColumn, trace.tag_eq_nil htag, List.length_nil]
    omega

/-- Two lines indented in different ways, the second one further. -/
def tabbedPage : Text :=
  "<style>\n  a\n\t\t\tb\n</style>".toList

theorem remap_extract_column_tabbedPage :
    Processor.ofConfig {} = .ok .default ∧ Processor.default.accepts ⟨"page.html"⟩ ∧
      Processor.default.finder.AlignedIn tabbedPage ∧
      (Processor.default.extract tabbedPage ⟨"page.html"⟩).2.remap
          [{ line := some 2, column := some 2, rule := "spaces" }] ⟨"page.html"⟩ =
        .ok [{ line := some 3, column := some 4, rule := "spaces" }] := by
  have haligned := RegionFinder.alignedIn_default tabbedPage
  refine ⟨ofConfig_default, rfl, haligned, ?_⟩
  obtain ⟨map, hmap, htraces⟩ :=
    remap_extract_column_iff .default tabbedPage ⟨"page.html"⟩ rfl haligned
  have hstored : (Processor.default.extract tabbedPage ⟨"page.html"⟩).2.lineMap? ⟨"page.html"⟩ =
      some ⟨[⟨2, 2⟩, ⟨3, 2⟩]⟩ := by
    decide +kernel
  have htext : (Processor.default.extract tabbedPage ⟨"page.html"⟩).1 = "a\n\tb\n".toList := by
    decide +kernel
  have hkept : Processor.default.keptSnippets tabbedPage =
      [⟨"<style>".toList, "\n  a\n\t\t\tb\n".toList, 0⟩] := by
    decide +kernel
  obtain rfl := Option.some.inj (hmap.symm.trans hstored)
  obtain ⟨⟨trace⟩, hmoved⟩ := htraces 2 ⟨3, 2⟩ rfl
  have htag : ¬ trace.SharesTagLine := by
    rintro ⟨-, hskip⟩
    have hsnippet := (congrArg (trace.snippet ∈ ·) hkept).mp trace.snippet_mem
    rw [List.mem_singleton.mp hsnippet] at hskip
    revert hskip
    decide +kernel
  have hline : some trace.line = some "\tb".toList := by
    rw [← trace.line_eq, htext]
    decide +kernel
  obtain ⟨movedBefore, movedAfter, hbefore, hafter, hall⟩ := (hmoved trace htag
    { line := some 2, column := some 2, rule := "spaces" } 2 rfl rfl rfl (by decide)
    (by rw [Option.some.inj hline]; decide +kernel) (by decide)).1 [] []
  rw [remap_extract rfl hstored, Except.ok.injEq] at hbefore hafter
  subst hbefore hafter
  exact hall

/-- The second line starts with a blank that is neither a space nor a tab. -/
def unevenPage : Text :=
  "<style>\n  a\n\u00a0b\n</style>".toList

/-- A line that nothing was removed from is shifted all the same, here past its end. -/
theorem remap_misses_unstripped_line :
    lines (Processor.default.extract unevenPage ⟨"page.html"⟩).1 =
        ["a".toList, "\u00a0b".toList, []] ∧
      unevenPage.lines[2]? = some "\u00a0b".toList ∧
      (Processor.default.extract unevenPage ⟨"page.html"⟩).2.remap
          [{ line := some 2, column := some 2, rule := "spaces" }] ⟨"page.html"⟩ =
        .ok [{ line := some 3, column := some 4, rule := "spaces" }] := by
  refine ⟨by decide +kernel, by decide +kernel, ?_⟩
  have hstored : (Processor.default.extract unevenPage ⟨"page.html"⟩).2.lineMap? ⟨"page.html"⟩ =
      some ⟨[⟨2, 2⟩, ⟨3, 2⟩]⟩ := by
    decide +kernel
  rw [remap_extract rfl hstored]
  rfl

end Processor

end Excerpt
