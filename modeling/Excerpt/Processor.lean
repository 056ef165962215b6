import Excerpt.Config
import Excerpt.Diagnostic
import Excerpt.Frame
import Excerpt.LineCounter
import Excerpt.MapStore
import Excerpt.Region
import Excerpt.Reindent

/-! # Extraction and remapping

A processor builds a synthetic document from the snippets of a host document, and moves the
diagnostics of the synthetic document back onto the host. In between it keeps the line map of
every document it has extracted. -/

namespace Excerpt

/-! ## The synthetic document -/

/-- A synthetic text and the origins of its lines. -/
structure Extraction where
  text : Text
  origins : List LineOrigin
  deriving DecidableEq, Repr

/-- The origins of `count` lines that follow each other in the host. -/
def consecutiveOrigins (startLine indentColumns : Nat) (count : Nat) : List LineOrigin :=
  (List.range count).map fun i => ⟨startLine + i, indentColumns⟩

/-- Joins the snippets, each without its frame and its indentation and with a line break behind
it. Snippets of blanks are left out. -/
def joinSnippets (counter : LineCounter) : List Snippet → Extraction
  | [] => ⟨[], []⟩
  | snippet :: rest =>
    let framed := frame snippet.body
    let block := reindent framed.text
    if block.text.isBlank then joinSnippets counter rest
    else
      let (line, counter) := counter.lineAt snippet.bodyOffset
      let origins := consecutiveOrigins (line + framed.skippedLines) block.indentColumns
        block.text.lines.length
      let others := joinSnippets counter rest
      ⟨block.text ++ '\n' :: others.text, origins ++ others.origins⟩

/-! ## Remapping -/

/-- The sum of a column and a width, which stays at the greatest word. -/
def shiftColumn (column width : Nat) : Nat :=
  min (column + width) maxWord

/-- Moves a diagnostic to the origin of its line. One without a line, or on a line that is not
mapped, stays as it is. -/
def Diagnostic.remap (map : LineMap) (d : Diagnostic) : Diagnostic :=
  match d.line.bind map.get? with
  | none => d
  | some origin =>
    { d with
      line := some origin.hostLine
      column := d.column.map (shiftColumn · origin.indentColumns) }

/-! ## Processors -/

structure Processor where
  config : Config
  finder : RegionFinder
  filter : FileFilter
  store : MapStore
  deriving DecidableEq, Repr

namespace Processor

/-- A processor that has extracted nothing. The tags are made ready before the filter. -/
def ofConfig (config : Config) : Except Error Processor := do
  let finder ← RegionFinder.ofTags config.tags
  let filter ← FileFilter.ofPolicy config.filter
  return ⟨config, finder, filter, .empty⟩

/-- Whether the filter accepts a document. -/
def accepts (p : Processor) (document : DocumentId) : Bool :=
  p.filter.accepts document.name

def lineMap? (p : Processor) (document : DocumentId) : Option LineMap :=
  p.store.get? document

/-- The synthetic document of a host text. -/
def synthesize (p : Processor) (host : Text) : Extraction :=
  joinSnippets (.ofText host) (p.finder.snippets host)

/-- Extracts a document and stores its line map in place of an older one. A document that the
filter rejects comes back unchanged and leaves no map. -/
def extract (p : Processor) (host : Text) (document : DocumentId) : Text × Processor :=
  if p.accepts document then
    let extraction := p.synthesize host
    (extraction.text, { p with store := p.store.insert document ⟨extraction.origins⟩ })
  else (host, p)

/-- Moves the diagnostics of a document back onto its host and drops those of ignored rules. The
document has to be extracted first, unless the filter rejects it: then nothing changes. -/
def remap (p : Processor) (diagnostics : List Diagnostic) (document : DocumentId) :
    Except Error (List Diagnostic) :=
  if p.accepts document then
    match p.lineMap? document with
    | none => .error (.unknownDocument document)
    | some map =>
      .ok ((diagnostics.filter fun d => !p.config.ignoresRule d.rule).map (Diagnostic.remap map))
  else .ok diagnostics

/-- Moves the warnings of a result and leaves everything else in it. -/
def remapResult (p : Processor) (result : AnalysisResult) (document : DocumentId) :
    Except Error AnalysisResult := do
  let warnings ← p.remap result.warnings document
  return { result with warnings := warnings }

end Processor

end Excerpt
