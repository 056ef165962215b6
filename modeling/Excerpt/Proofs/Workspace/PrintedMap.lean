import Excerpt.Proofs.Diagnostic.RoundTrip
import Excerpt.Proofs.Extraction.Columns
import Excerpt.Proofs.Extraction.Sizes
import Excerpt.Proofs.Workspace.Selection
import Mathlib.Data.List.Forall2

/-! # The printed line map

The line map of a file is printed as a table with the number of every line in it. Diagnostics are
moved by a lookup that counts the lines on its own. Both say the same of every line. -/

namespace Excerpt

/-! ## Tables -/

namespace LineMap

/-- An entry of a table as it is printed. -/
def entryValue (entry : Nat × LineOrigin) : Value :=
  .record [("line", .ofNat entry.1), ("host_line", .ofNat entry.2.hostLine),
    ("indent_columns", .ofNat entry.2.indentColumns)]

/-- A table as it is printed. -/
def printTable (table : List (Nat × LineOrigin)) : String :=
  String.ofList (Json.pretty (.list (table.map entryValue)))

/-- Reads an entry, with its members in any order. -/
def entryOfValue? (v : Value) : Option (Nat × LineOrigin) := do
  let members ← v.toRecord?
  let line ← (← members.lookup "line").toNat?
  let hostLine ← (← members.lookup "host_line").toNat?
  let indentColumns ← (← members.lookup "indent_columns").toNat?
  return (line, ⟨hostLine, indentColumns⟩)

/-- Reads a table that was printed. -/
def readTable? (printed : String) : Option (List (Nat × LineOrigin)) := do
  (← (← Json.parse printed.toList).toList?).mapM entryOfValue?

theorem printTable_toList (map : LineMap) :
    printTable map.toList = String.ofList (Json.pretty map.toValue) :=
  rfl

/-- The lines of a table are counted from 1. -/
theorem map_fst_toList (map : LineMap) :
    map.toList.map Prod.fst = List.range' 1 map.toList.length := by
  apply List.ext_getElem
  · simp
  · intro i hi hrange
    simp [toList, Nat.add_comm]

theorem exists_mem_toList_iff (map : LineMap) (line : Nat) :
    (∃ origin, (line, origin) ∈ map.toList) ↔ 1 ≤ line ∧ line ≤ map.toList.length := by
  have hmem : line ∈ map.toList.map Prod.fst ↔ 1 ≤ line ∧ line ≤ map.toList.length := by
    rw [map_fst_toList, List.mem_range'_1]
    omega
  simpa using hmem

/-- The table and the lookup count the lines alike. -/
theorem mem_toList_iff {map : LineMap} {line : Nat} {origin : LineOrigin} :
    (line, origin) ∈ map.toList ↔ map.get? line = some origin := by
  simp only [toList, List.mem_map, Prod.exists, List.mem_zipIdx_iff_getElem?, Prod.mk.injEq]
  cases line with
  | zero => simp [get?]
  | succ index => simp [get?]

/-- The numbers of an entry fit a word. -/
def Fits (entry : Nat × LineOrigin) : Prop :=
  entry.1 ≤ maxWord ∧ entry.2.hostLine ≤ maxWord ∧ entry.2.indentColumns ≤ maxWord

theorem Fits.readsBack {entry : Nat × LineOrigin} (h : Fits entry) (depth level : Nat) :
    Json.ReadsBack (Json.readValue (depth + 1)) (Json.write .pretty level (entryValue entry))
      (.record (Value.sortMembers [("line", .ofNat entry.1),
        ("host_line", .ofNat entry.2.hostLine),
        ("indent_columns", .ofNat entry.2.indentColumns)])) := by
  obtain ⟨hline, hhost, hindent⟩ := h
  refine Json.readsBack_record Json.Layout.isSpaced_pretty fun m hm => ?_
  simp only [List.mem_cons, List.not_mem_nil, or_false] at hm
  rcases hm with rfl | rfl | rfl
  · exact Json.readsBack_integer depth _ ⟨by omega, by omega⟩
  · exact Json.readsBack_integer depth _ ⟨by omega, by omega⟩
  · exact Json.readsBack_integer depth _ ⟨by omega, by omega⟩

theorem Fits.entryOfValue?_eq {entry : Nat × LineOrigin} (h : Fits entry) :
    entryOfValue? (.record (Value.sortMembers [("line", .ofNat entry.1),
      ("host_line", .ofNat entry.2.hostLine),
      ("indent_columns", .ofNat entry.2.indentColumns)])) = some entry := by
  obtain ⟨hline, hhost, hindent⟩ := h
  simp [entryOfValue?, Value.toRecord?, Value.lookup_sortMembers, Value.lookup_cons_eq_ite,
    Value.toNat?_ofNat hline, Value.toNat?_ofNat hhost, Value.toNat?_ofNat hindent]

/-- A printed table is read back, whatever order a reader puts the members of its entries in. -/
theorem readTable?_printTable {table : List (Nat × LineOrigin)}
    (h : ∀ entry ∈ table, Fits entry) : readTable? (printTable table) = some table := by
  have hparse : Json.parse (Json.pretty (.list (table.map entryValue))) = some (.list _) :=
    (Json.readsBack_list Json.Layout.isSpaced_pretty fun entry hentry =>
      (h entry hentry).readsBack 125 1).parse_eq
  simp only [readTable?, printTable, String.toList_ofList, hparse, Option.bind_eq_bind,
    Option.bind_some, Value.toList?]
  exact mapM_map_eq_some fun entry hentry => (h entry hentry).entryOfValue?_eq

end LineMap

/-! ## Moved diagnostics -/

/-- What a table says of a diagnostic: it moves to the entry of its line, and stays as it is when
there is no such entry or it has no line. -/
inductive Diagnostic.MovedBy (table : List (Nat × LineOrigin)) (d : Diagnostic) :
    Diagnostic → Prop
  | moved {line : Nat} {origin : LineOrigin} (hline : d.line = some line)
      (hentry : (line, origin) ∈ table) :
      MovedBy table d { d with
        line := some origin.hostLine
        column := d.column.map fun column => min (column + origin.indentColumns) maxWord }
  | unmapped {line : Nat} (hline : d.line = some line)
      (hentry : ∀ origin, (line, origin) ∉ table) : MovedBy table d d
  | unplaced (hline : d.line = none) : MovedBy table d d

theorem Diagnostic.movedBy_toList_iff {map : LineMap} {d moved : Diagnostic} :
    d.MovedBy map.toList moved ↔ d.remap map = moved := by
  constructor
  · intro h
    cases h with
    | moved hline hentry =>
      rw [remap, hline, Option.bind_some, LineMap.mem_toList_iff.mp hentry]
      rfl
    | @unmapped line hline hentry =>
      have hget : map.get? line = none := by
        rw [Option.eq_none_iff_forall_ne_some]
        exact fun origin hget => hentry origin (LineMap.mem_toList_iff.mpr hget)
      rw [remap, hline, Option.bind_some, hget]
    | unplaced hline => rw [remap, hline, Option.bind_none]
  · rintro rfl
    cases hline : d.line with
    | none =>
      rw [remap, hline, Option.bind_none]
      exact .unplaced hline
    | some line =>
      rw [remap, hline, Option.bind_some]
      cases hget : map.get? line with
      | none =>
        refine .unmapped hline ?_
        intro origin hentry
        rw [LineMap.mem_toList_iff.mp hentry] at hget
        contradiction
      | some origin => exact .moved hline (LineMap.mem_toList_iff.mpr hget)

theorem forall₂_movedBy_iff {map : LineMap} {diagnostics moved : List Diagnostic} :
    List.Forall₂ (Diagnostic.MovedBy map.toList) diagnostics moved ↔
      diagnostics.map (Diagnostic.remap map) = moved := by
  rw [← List.forall₂_eq_eq_eq, List.forall₂_map_left_iff]
  simp only [← Diagnostic.movedBy_toList_iff]

/-! ## Commands -/

/-- The line map of a host text. -/
def Processor.mapOf (p : Processor) (host : Text) : LineMap :=
  ⟨(p.synthesize host).origins⟩

/-- The numbers in the line map of a text fit a word when twice its bytes do. -/
theorem Processor.fits_mapOf {p : Processor} {host : Text} (h : 2 * host.byteLength < maxWord) :
    ∀ entry ∈ (p.mapOf host).toList, LineMap.Fits entry := by
  rintro ⟨line, origin⟩ hentry
  obtain ⟨hlength, hsizes⟩ := p.synthesize_sizes host
  obtain ⟨i, rfl, hget⟩ := LineMap.exists_of_get?_eq_some (LineMap.mem_toList_iff.mp hentry)
  have hsize := hsizes origin (List.mem_of_getElem? hget)
  have hi : i < (p.synthesize host).origins.length := (List.getElem?_eq_some_iff.mp hget).1
  dsimp only [LineMap.Fits]
  omega

namespace Workspace

variable {ws : Workspace} {view : FileView} {file host : Text}

theorem lineMap?_extracting_self (h : ws.processor.accepts (ws.documentOf file)) :
    (ws.extracting file host).processor.lineMap? (ws.documentOf file) =
      some (ws.processor.mapOf host) := by
  rw [lineMap?_extracting, if_pos ⟨rfl, h⟩]
  rfl

theorem remap_extracting (h : ws.processor.accepts (ws.documentOf file))
    (diagnostics : List Diagnostic) :
    (ws.extracting file host).processor.remap diagnostics (ws.documentOf file) =
      .ok ((diagnostics.filter fun d => !ws.processor.config.ignoresRule d.rule).map
        (Diagnostic.remap (ws.processor.mapOf host))) :=
  Processor.remap_extract h (lineMap?_extracting_self h) diagnostics

/-- The workspace with other line maps in its store. -/
def withStore (ws : Workspace) (store : MapStore) : Workspace :=
  { ws with processor := { ws.processor with store := store } }

/-- A table that is printed for a file, and what it says of the lines of the file: they are counted
from 1, and all diagnostics of the file move by it. -/
structure PrintsMoves (ws : Workspace) (view : FileView) (file host : Text)
    (table : List (Nat × LineOrigin)) : Prop where
  printed : (ws.renderMap view file true).1 = .ok (LineMap.printTable table)
  reads_back : 2 * host.byteLength < maxWord →
    LineMap.readTable? (LineMap.printTable table) = some table
  lines_eq : table.map Prod.fst = List.range' 1 table.length
  entry_iff : ∀ line, (∃ origin, (line, origin) ∈ table) ↔ 1 ≤ line ∧ line ≤ table.length
  remap_iff : ∀ diagnostics moved,
    (ws.renderMap view file true).2.processor.remap diagnostics (ws.documentOf file) =
        .ok moved ↔
      List.Forall₂ (Diagnostic.MovedBy table)
        (diagnostics.filter fun d => !ws.processor.config.ignoresRule d.rule) moved
  remapInput_eq : ∀ store input format diagnostics, parseDiagnostics input = .ok diagnostics →
    ∃ moved, List.Forall₂ (Diagnostic.MovedBy table)
        (diagnostics.filter fun d => !ws.processor.config.ignoresRule d.rule) moved ∧
      ((ws.withStore store).remapInput view file input format).1 =
        .ok (renderDiagnostics moved (String.ofList file) format)

theorem renderMap_of_ok (h : view.read (ws.resolve file) = .ok host)
    (haccepts : ws.processor.accepts (ws.documentOf file)) :
    ws.renderMap view file true =
      (.ok (LineMap.printTable (ws.processor.mapOf host).toList),
        ws.extracting file host) := by
  rw [renderMap, extractFile_of_ok h]
  simp only [Except.map, lineMap?_extracting_self haccepts, LineMap.printTable_toList, if_true]

theorem remapInput_of_ok {input : Text} {diagnostics : List Diagnostic}
    (h : view.read (ws.resolve file) = .ok host)
    (haccepts : ws.processor.accepts (ws.documentOf file))
    (hinput : parseDiagnostics input = .ok diagnostics) (format : ReportFormat) :
    (ws.remapInput view file input format).1 =
      .ok (renderDiagnostics
        ((diagnostics.filter fun d => !ws.processor.config.ignoresRule d.rule).map
          (Diagnostic.remap (ws.processor.mapOf host)))
        (String.ofList file) format) := by
  rw [remapInput, extractFile_of_ok h]
  simp only [hinput, remap_extracting haccepts, bind, Except.bind, pure, Except.pure]

/-- For every file that can be read and is accepted, the printed table and the remapping agree:
whatever is in the store, diagnostics move by the table and by nothing else. -/
theorem renderMap_printsMoves (ws : Workspace) (view : FileView) (file host : Text)
    (h : view.read (ws.resolve file) = .ok host)
    (haccepts : ws.processor.accepts (ws.documentOf file)) :
    ∃ table, ws.PrintsMoves view file host table := by
  refine ⟨(ws.processor.mapOf host).toList, ?_, ?_, LineMap.map_fst_toList _,
    LineMap.exists_mem_toList_iff _, ?_, ?_⟩
  · rw [renderMap_of_ok h haccepts]
  · intro hsize
    exact LineMap.readTable?_printTable (Processor.fits_mapOf hsize)
  · intro diagnostics moved
    rw [renderMap_of_ok h haccepts, remap_extracting haccepts, forall₂_movedBy_iff,
      Except.ok.injEq]
  · intro store input format diagnostics hinput
    -- neither reading nor moving looks at the maps that were stored before
    have hread : view.read ((ws.withStore store).resolve file) = .ok host := h
    exact ⟨_, forall₂_movedBy_iff.mpr rfl, remapInput_of_ok hread haccepts hinput format⟩

/-- A file with one snippet of two lines that are indented by two columns. -/
def indentedPages : FileTree where
  workingDirectory := []
  nodes := [(["page.html".toList], .file (.text "<p>\n<style>\n  a\n  b\n</style>".toList))]

/-- A workspace with the default tags that ignores a rule. -/
def ignoring : Workspace :=
  ⟨[], { Processor.default with config := { ignoredRules := ["order"] } }⟩

/-- A column at the end of the range, lines next to the table, no line at all, and an ignored
rule. -/
def edgeDiagnostics : List Diagnostic :=
  [{ line := some 2, column := some (maxWord - 1) }, { line := some 0, column := some 1 },
    { line := some 3, column := some 1 }, { column := some 1 },
    { line := some 1, rule := "order" }]

theorem renderMap_printsMoves_indentedPages :
    ofConfig { ignoredRules := ["order"] } [] = .ok ignoring ∧
      indentedPages.view.read (ignoring.resolve "page.html".toList) =
        .ok "<p>\n<style>\n  a\n  b\n</style>".toList ∧
      ignoring.processor.accepts (ignoring.documentOf "page.html".toList) ∧
      ignoring.PrintsMoves indentedPages.view "page.html".toList
        "<p>\n<style>\n  a\n  b\n</style>".toList [(1, ⟨3, 2⟩), (2, ⟨4, 2⟩)] ∧
      (ignoring.renderMap indentedPages.view "page.html".toList true).2.processor.remap
          edgeDiagnostics (ignoring.documentOf "page.html".toList) =
        .ok [{ line := some 4, column := some maxWord },
          { line := some 0, column := some 1 }, { line := some 3, column := some 1 },
          { column := some 1 }] := by
  have hconfig : ofConfig { ignoredRules := ["order"] } [] = .ok ignoring := by
    have hfilter : FileFilter.ofPolicy .default = .ok .all := rfl
    simp only [ofConfig, Processor.ofConfig, RegionFinder.ofTags_default, hfilter]
    rfl
  have hread : indentedPages.view.read (ignoring.resolve "page.html".toList) =
      .ok "<p>\n<style>\n  a\n  b\n</style>".toList := rfl
  obtain ⟨table, hmoves⟩ := renderMap_printsMoves ignoring indentedPages.view "page.html".toList
    _ hread rfl
  -- the table is the one that is read from the printed text
  have hprinted : (ignoring.renderMap indentedPages.view "page.html".toList true).1.toOption.bind
      LineMap.readTable? = some [(1, ⟨3, 2⟩), (2, ⟨4, 2⟩)] := by
    decide +kernel
  have htable := hmoves.reads_back (by decide +kernel)
  rw [hmoves.printed] at hprinted
  obtain rfl := Option.some.inj (htable.symm.trans hprinted)
  refine ⟨hconfig, hread, rfl, hmoves, (hmoves.remap_iff _ _).mpr ?_⟩
  have hentry : (2, ⟨4, 2⟩) ∈ [(1, (⟨3, 2⟩ : LineOrigin)), (2, ⟨4, 2⟩)] := by decide
  refine .cons (.moved rfl hentry) (.cons (.unmapped rfl ?_) (.cons (.unmapped rfl ?_)
    (.cons (.unplaced rfl) .nil)))
  · simp
  · simp

end Workspace

end Excerpt
