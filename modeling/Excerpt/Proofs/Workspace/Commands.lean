import Excerpt.Workspace

/-! # Commands of a workspace

Every command first reads its host file and extracts it, and only then does what it is for. What
comes after the extraction may fail, but it leaves the workspace alone. -/

namespace Excerpt

/-- A command of a workspace. An extraction goes to another file or to the standard output. -/
inductive Request where
  | extract (file : Text) (output : Option Text)
  | map (file : Text) (asJson : Bool)
  | remap (file input : Text) (format : ReportFormat)

/-- The host file of a command. -/
def Request.file : Request → Text
  | .extract file _ => file
  | .map file _ => file
  | .remap file _ _ => file

namespace Workspace

/-- Carries out a command on a tree of files: what it prints, and the workspace and the tree that it
leaves. -/
def perform (ws : Workspace) (tree : FileTree) :
    Request → Except Error String × Workspace × FileTree
  | .extract file none =>
    let (extracted, after) := ws.extractFile tree.view file
    (extracted.map fun e => String.ofList e.text, after, tree)
  | .extract file (some output) =>
    let (done, after, written) := ws.extractInto tree file output
    (done.map fun _ => "", after, written)
  | .map file asJson =>
    let (described, after) := ws.renderMap tree.view file asJson
    (described, after, tree)
  | .remap file input format =>
    let (report, after) := ws.remapInput tree.view file input format
    (report, after, tree)

/-- The document that a file stands for. -/
def documentOf (ws : Workspace) (file : Text) : DocumentId :=
  ⟨String.ofList (ws.resolve file)⟩

/-- The workspace behind the extraction of a file with this text. -/
def extracting (ws : Workspace) (file host : Text) : Workspace :=
  { ws with processor := (ws.processor.extract host (ws.documentOf file)).2 }

/-! ## Reading the host -/

variable {ws : Workspace} {view : FileView} {tree : FileTree} {file host : Text}
  {cause : FileError}

theorem extractFile_of_error (h : view.read (ws.resolve file) = .error cause) :
    ws.extractFile view file = (.error (.file cause), ws) := by
  simp only [extractFile, FileView.readText, h]

theorem extractFile_of_ok (h : view.read (ws.resolve file) = .ok host) :
    ws.extractFile view file =
      (.ok ⟨ws.resolve file, ws.documentOf file,
        (ws.processor.extract host (ws.documentOf file)).1,
        ws.processor.accepts (ws.documentOf file)⟩, ws.extracting file host) := by
  simp only [extractFile, FileView.readText, h]
  rfl

theorem extractInto_workspace (ws : Workspace) (tree : FileTree) (file output : Text) :
    (ws.extractInto tree file output).2.1 = (ws.extractTo tree.view file output).2 := by
  unfold extractInto
  split
  · rename_i h
    rw [h]
  · rename_i h
    rw [h]
    split <;> rfl

/-! ## What a command leaves -/

/-- Whatever else a command does, it leaves the workspace as the reading of its host file has. -/
theorem perform_workspace (ws : Workspace) (tree : FileTree) (request : Request) :
    (ws.perform tree request).2.1 = (ws.extractFile tree.view request.file).2 := by
  cases request with
  | extract file output =>
    cases output with
    | none => rfl
    | some output => exact extractInto_workspace ws tree file output
  | map file asJson => rfl
  | remap file input format => rfl

theorem perform_of_error {request : Request}
    (h : tree.read (ws.resolve request.file) = .error cause) :
    ws.perform tree request = (.error (.file cause), ws, tree) := by
  cases request with
  | extract file output =>
    have hfile : ws.extractFile tree.view file = (.error (.file cause), ws) :=
      extractFile_of_error h
    cases output with
    | none => simp [perform, hfile, Except.map]
    | some output => simp [perform, extractInto, extractTo, hfile, Except.map]
  | map file asJson =>
    have hfile : ws.extractFile tree.view file = (.error (.file cause), ws) :=
      extractFile_of_error h
    simp [perform, renderMap, hfile, Except.map]
  | remap file input format =>
    have hfile : ws.extractFile tree.view file = (.error (.file cause), ws) :=
      extractFile_of_error h
    simp [perform, remapInput, hfile, bind, Except.bind]

theorem perform_of_ok {request : Request} (h : tree.read (ws.resolve request.file) = .ok host) :
    (ws.perform tree request).2.1 = ws.extracting request.file host := by
  have hfile : ws.extractFile tree.view request.file = (_, ws.extracting request.file host) :=
    extractFile_of_ok h
  rw [perform_workspace, hfile]

/-- An extraction replaces the map of its own document, if that is accepted, and no other. -/
theorem lineMap?_extracting (ws : Workspace) (file host : Text) (document : DocumentId) :
    (ws.extracting file host).processor.lineMap? document =
      if document = ws.documentOf file ∧ ws.processor.accepts document then
        some ⟨(ws.processor.synthesize host).origins⟩
      else ws.processor.lineMap? document := by
  unfold extracting Processor.extract
  by_cases hdocument : document = ws.documentOf file
  · subst hdocument
    by_cases haccepts : ws.processor.accepts (ws.documentOf file)
    · simp [haccepts, Processor.lineMap?, MapStore.get?_insert]
    · simp [haccepts]
  · split <;> simp [hdocument, Processor.lineMap?, MapStore.get?_insert]

/-- A command is all or nothing. If its host file cannot be read, nothing has changed. If it can,
the workspace is that of the extraction alone, whether or not the command succeeds: the map of its
document is the whole map of the text that was read, and every other document keeps its own. -/
theorem perform_atomic (ws : Workspace) (tree : FileTree) (request : Request) :
    match tree.read (ws.resolve request.file) with
    | .error cause => ws.perform tree request = (.error (.file cause), ws, tree)
    | .ok host =>
      (ws.perform tree request).2.1 =
          { ws with processor := (ws.processor.extract host (ws.documentOf request.file)).2 } ∧
        ∀ document, (ws.perform tree request).2.1.processor.lineMap? document =
          if document = ws.documentOf request.file ∧ ws.processor.accepts document then
            some ⟨(ws.processor.synthesize host).origins⟩
          else ws.processor.lineMap? document := by
  split
  · rename_i cause h
    exact perform_of_error h
  · rename_i host h
    rw [perform_of_ok h]
    exact ⟨rfl, lineMap?_extracting ws request.file host⟩

end Workspace

end Excerpt
