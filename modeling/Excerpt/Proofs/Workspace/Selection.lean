import Excerpt.Proofs.Except
import Excerpt.Proofs.Json.Tokens
import Excerpt.Proofs.Processor.History
import Excerpt.Proofs.Workspace.Commands

/-! # What the filter selects

A file that is not selected is told by the map that is not found for it. That is right because no
command ever leaves a map for such a file, however many have run before. -/

namespace Excerpt

/-! ## Runs of commands -/

theorem Processor.run_append (p : Processor) (first rest : List Call) :
    p.run (first ++ rest) = (p.run first).run rest :=
  List.foldl_append

theorem Processor.filter_of_ofConfig {config : Config} {fresh : Processor}
    (h : ofConfig config = .ok fresh) : FileFilter.ofPolicy config.filter = .ok fresh.filter := by
  obtain ⟨finder, -, h⟩ := exists_of_bind_eq_ok h
  obtain ⟨filter, hfilter, h⟩ := exists_of_bind_eq_ok h
  rw [hfilter, ← Except.ok.inj h]

namespace Workspace

/-- The workspace behind commands, each with the files as they are at its time. -/
def run (ws : Workspace) (steps : List (FileTree × Request)) : Workspace :=
  steps.foldl (fun ws step => (ws.perform step.1 step.2).2.1) ws

/-- A command changes the processor by nothing but calls of it. -/
theorem exists_calls_perform (ws : Workspace) (tree : FileTree) (request : Request) :
    ∃ calls, (ws.perform tree request).2.1 = { ws with processor := ws.processor.run calls } := by
  cases h : tree.read (ws.resolve request.file) with
  | error cause =>
    refine ⟨[], ?_⟩
    rw [perform_of_error h]
    rfl
  | ok host =>
    refine ⟨[.extract host (ws.documentOf request.file)], ?_⟩
    rw [perform_of_ok h]
    rfl

theorem exists_calls_run (ws : Workspace) (steps : List (FileTree × Request)) :
    ∃ calls, ws.run steps = { ws with processor := ws.processor.run calls } := by
  induction steps generalizing ws with
  | nil => exact ⟨[], rfl⟩
  | cons step steps ih =>
    obtain ⟨first, hfirst⟩ := exists_calls_perform ws step.1 step.2
    obtain ⟨rest, hrest⟩ := ih (ws.perform step.1 step.2).2.1
    refine ⟨first ++ rest, ?_⟩
    rw [hfirst] at hrest
    rw [run, List.foldl_cons, hfirst, Processor.run_append]
    exact hrest

theorem processor_of_ofConfig {config : Config} {base : Text} {fresh : Workspace}
    (h : ofConfig config base = .ok fresh) : Processor.ofConfig config = .ok fresh.processor := by
  obtain ⟨processor, hprocessor, h⟩ := exists_of_bind_eq_ok h
  rw [hprocessor, ← Except.ok.inj h]

/-! ## The report on a file that is not selected -/

def notSelected (file : Text) : String :=
  String.ofList file ++ ": not selected by the file filter"

/-- A description goes on with a number where the report goes on with a word. -/
theorem describeMap_ne_notSelected (file : Text) (map : LineMap) :
    describeMap file map ≠ notSelected file := by
  intro h
  obtain ⟨c, digits, hdigits, hc⟩ := Json.exists_toDigits_cons map.size
  have hn : c = 'n' := by
    have hlist := congrArg String.toList h
    simp [describeMap, notSelected, hdigits] at hlist
    exact hlist.1
  rw [hn] at hc
  exact absurd hc (by decide)

theorem getLast?_pretty_list (items : List Value) :
    (Json.pretty (.list items)).getLast? = some ']' := by
  cases items with
  | nil => rfl
  | cons v rest =>
    rw [Json.pretty, Json.write, List.getLast?_concat]

/-- A list ends with a bracket where the report ends with a letter. -/
theorem pretty_ne_notSelected (file : Text) (map : LineMap) :
    String.ofList (Json.pretty map.toValue) ≠ notSelected file := by
  intro h
  have hlist := congrArg (fun s => s.toList.getLast?) h
  simp [notSelected, LineMap.toValue, getLast?_pretty_list] at hlist

/-! ## Behind any run -/

/-- A workspace whose files are selected by a filter. It knows no other documents, every document it
reads is known to it, and all that it tells of the selection agrees with the filter. -/
structure SelectsBy (ws : Workspace) (filter : FileFilter) : Prop where
  documents_accepted : ∀ document ∈ ws.processor.store.documents, filter.accepts document.name
  remapInput_known : ∀ view file input format document,
    (ws.remapInput view file input format).1 ≠ .error (.unknownDocument document)
  notSelected_iff : ∀ view file asJson,
    (ws.renderMap view file asJson).1 = .ok (notSelected file) ↔
      (∃ host, view.read (ws.resolve file) = .ok host) ∧
        filter.accepts (String.ofList (ws.resolve file)) = false
  extractFile_iff : ∀ view file host, view.read (ws.resolve file) = .ok host →
    ∃ e, (ws.extractFile view file).1 = .ok e ∧
      (e.processed = false ↔ filter.accepts (String.ofList (ws.resolve file)) = false) ∧
      (e.text = host ∧ (ws.extractFile view file).2.processor.lineMap? e.document = none ↔
        filter.accepts (String.ofList (ws.resolve file)) = false)

variable {ws : Workspace} {view : FileView} {file host : Text}

/-- Right after its extraction a document has a map exactly when it is accepted, if rejected ones
had none before. -/
theorem lineMap?_extracting_eq_none_iff
    (hnone : ∀ document, ws.processor.accepts document = false →
      ws.processor.lineMap? document = none) :
    (ws.extracting file host).processor.lineMap? (ws.documentOf file) = none ↔
      ws.processor.accepts (ws.documentOf file) = false := by
  rw [lineMap?_extracting]
  cases haccepts : ws.processor.accepts (ws.documentOf file) with
  | false => simp [hnone _ haccepts]
  | true => simp

theorem accepts_extracting (ws : Workspace) (file host : Text) (document : DocumentId) :
    (ws.extracting file host).processor.accepts document = ws.processor.accepts document := by
  unfold extracting Processor.extract
  split <;> rfl

theorem renderMap_eq_notSelected_iff (h : view.read (ws.resolve file) = .ok host)
    (asJson : Bool) :
    (ws.renderMap view file asJson).1 = .ok (notSelected file) ↔
      (ws.extracting file host).processor.lineMap? (ws.documentOf file) = none := by
  rw [renderMap, extractFile_of_ok h]
  simp only [Except.map, Except.ok.injEq]
  cases hmap : (ws.extracting file host).processor.lineMap? (ws.documentOf file) with
  | none => simp [notSelected]
  | some map =>
    cases asJson with
    | false => simpa using describeMap_ne_notSelected file map
    | true => simpa using pretty_ne_notSelected file map

/-- Right after its extraction the diagnostics of a document can be moved. -/
theorem exists_remap_extracting (ws : Workspace) (file host : Text)
    (diagnostics : List Diagnostic) :
    ∃ moved, (ws.extracting file host).processor.remap diagnostics (ws.documentOf file) =
      .ok moved := by
  rw [Processor.remap, accepts_extracting, lineMap?_extracting]
  cases haccepts : ws.processor.accepts (ws.documentOf file) with
  | false => simp
  | true => simp

theorem parseDiagnostics_ne_unknownDocument (input : Text) (document : DocumentId) :
    parseDiagnostics input ≠ .error (.unknownDocument document) := by
  unfold parseDiagnostics
  split <;> simp

theorem remapInput_ne_unknownDocument (ws : Workspace) (view : FileView) (file input : Text)
    (format : ReportFormat) (document : DocumentId) :
    (ws.remapInput view file input format).1 ≠ .error (.unknownDocument document) := by
  cases h : view.read (ws.resolve file) with
  | error cause => simp [remapInput, extractFile_of_error h, bind, Except.bind]
  | ok host =>
    rw [remapInput, extractFile_of_ok h]
    cases hparse : parseDiagnostics input with
    | error e =>
      have hne := parseDiagnostics_ne_unknownDocument input document
      rw [hparse] at hne
      simpa [bind, Except.bind] using hne
    | ok diagnostics =>
      obtain ⟨moved, hmoved⟩ := exists_remap_extracting ws file host diagnostics
      simp [hmoved, bind, Except.bind, pure, Except.pure]

/-- A workspace whose processor has only ever been called for extractions selects by its filter. -/
theorem selectsBy_of_remembers {fresh : Processor} {calls : List Call}
    (h : ws.processor.Remembers fresh calls) : ws.SelectsBy fresh.filter := by
  have haccepts : ∀ document, ws.processor.accepts document = fresh.filter.accepts document.name :=
    h.accepts_eq
  have hnone : ∀ document, ws.processor.accepts document = false →
      ws.processor.lineMap? document = none := by
    intro document hrejected
    rw [h.lineMap?_eq_none_iff, ← h.accepts_eq]
    exact .inl hrejected
  refine ⟨?_, remapInput_ne_unknownDocument ws, ?_, ?_⟩
  · intro document hdocument
    rw [h.documents_eq, List.mem_eraseDups] at hdocument
    exact (List.mem_filter.mp hdocument).2
  · intro view file asJson
    cases hread : view.read (ws.resolve file) with
    | error cause => simp [renderMap, extractFile_of_error hread, Except.map]
    | ok host =>
      rw [renderMap_eq_notSelected_iff hread, lineMap?_extracting_eq_none_iff hnone, haccepts]
      simp [documentOf]
  · intro view file host hread
    rw [extractFile_of_ok hread]
    refine ⟨_, rfl, ?_, ?_⟩
    · rw [haccepts]
      rfl
    · rw [lineMap?_extracting_eq_none_iff hnone]
      refine ⟨fun h => (haccepts _).symm.trans h.2, fun h => ?_⟩
      have hrejected : ws.processor.accepts (ws.documentOf file) = false := (haccepts _).trans h
      refine ⟨?_, hrejected⟩
      simp [Processor.extract, hrejected]

/-- Whatever commands have run, on whatever files, a workspace selects by its own filter. -/
theorem run_selectsBy {config : Config} {base : Text} {fresh : Workspace}
    (h : ofConfig config base = .ok fresh) (steps : List (FileTree × Request)) :
    ∃ filter, FileFilter.ofPolicy config.filter = .ok filter ∧
      (fresh.run steps).SelectsBy filter := by
  have hprocessor := processor_of_ofConfig h
  have hfresh := Processor.remembers_nil (Processor.store_of_ofConfig hprocessor)
  obtain ⟨calls, hcalls⟩ := exists_calls_run fresh steps
  have hrun : (fresh.run steps).processor.Remembers fresh.processor calls := by
    rw [hcalls]
    exact hfresh.run calls
  exact ⟨_, Processor.filter_of_ofConfig hprocessor, selectsBy_of_remembers hrun⟩

/-- Two files, of which one has the suffix that is taken. -/
def vuePages : FileTree where
  workingDirectory := []
  nodes := [(["b.vue".toList], .file (.text "<style>a</style>".toList)),
    (["page.html".toList], .file (.text "<p>".toList))]

/-- Both files are extracted, and one that is not there. -/
def vueSteps : List (FileTree × Request) :=
  [(vuePages, .map "b.vue".toList false), (vuePages, .extract "page.html".toList none),
    (vuePages, .remap "c.vue".toList "[]".toList .text)]

theorem run_selectsBy_vueSteps :
    ofConfig { filter := .suffixes [".vue"] } [] = .ok ⟨[], .forVue⟩ ∧
      (run ⟨[], .forVue⟩ vueSteps).SelectsBy (.suffixes [".vue"]) ∧
      (run ⟨[], .forVue⟩ vueSteps).processor.store.documents = [⟨"b.vue"⟩] ∧
      ((run ⟨[], .forVue⟩ vueSteps).renderMap vuePages.view "page.html".toList true).1 =
        .ok "page.html: not selected by the file filter" := by
  have hconfig : ofConfig { filter := .suffixes [".vue"] } [] = .ok ⟨[], .forVue⟩ := by
    rw [ofConfig, Processor.ofConfig_forVue]
    rfl
  obtain ⟨filter, hfilter, hselects⟩ := run_selectsBy hconfig vueSteps
  obtain rfl : FileFilter.suffixes [".vue"] = filter := Except.ok.inj hfilter
  refine ⟨hconfig, hselects, by decide +kernel, ?_⟩
  refine (hselects.notSelected_iff vuePages.view "page.html".toList true).mpr
    ⟨⟨"<p>".toList, ?_⟩, ?_⟩
  · rfl
  · decide +kernel

end Workspace

end Excerpt
