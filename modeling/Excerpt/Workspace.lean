import Excerpt.ConfigFile
import Excerpt.FileTree
import Excerpt.Processor
import Excerpt.Report

/-! # Workspaces

A workspace is a processor bound to a directory. Every command first reads its host file; if that
fails nothing has changed. -/

namespace Excerpt

structure Workspace where
  baseDirectory : Text
  processor : Processor
  deriving DecidableEq, Repr

/-- A host file after extraction. Its text is the synthetic document, or the host itself when the
filter rejects the file. -/
structure ExtractedFile where
  path : Text
  document : DocumentId
  text : Text
  processed : Bool
  deriving DecidableEq, Repr

namespace Workspace

def ofConfig (config : Config) (baseDirectory : Text) : Except Error Workspace := do
  return ⟨baseDirectory, ← Processor.ofConfig config⟩

/-- A path as it is meant from the base directory. -/
def resolve (ws : Workspace) (path : Text) : Text :=
  Path.join ws.baseDirectory path

/-- Reads a host file and extracts it. -/
def extractFile (ws : Workspace) (view : FileView) (file : Text) :
    Except Error ExtractedFile × Workspace :=
  let path := ws.resolve file
  match view.readText path with
  | .error e => (.error e, ws)
  | .ok host =>
    let document : DocumentId := ⟨String.ofList path⟩
    let (text, processor) := ws.processor.extract host document
    (.ok ⟨path, document, text, ws.processor.accepts document⟩, { ws with processor := processor })

/-- The path and the text that are to be written when a host file is extracted to another file. -/
def extractTo (ws : Workspace) (view : FileView) (file output : Text) :
    Except Error (Text × Text) × Workspace :=
  let (extracted, ws) := ws.extractFile view file
  (extracted.map fun e => (ws.resolve output, e.text), ws)

/-- Extracts a host file to another file of a tree. The store changes as soon as the host has been
read, the tree only when the writing succeeds. -/
def extractInto (ws : Workspace) (tree : FileTree) (file output : Text) :
    Except Error Unit × Workspace × FileTree :=
  match ws.extractTo tree.view file output with
  | (.error e, ws) => (.error e, ws, tree)
  | (.ok (path, text), ws) =>
    match tree.write path text with
    | .error cause => (.error (.file cause), ws, tree)
    | .ok written => (.ok (), ws, written)

/-- Pads a numeral to six places. -/
def padLeft (t : String) : String :=
  String.ofList (List.replicate (6 - t.length) ' ') ++ t

/-- The line map of a file, one line for each of its lines. -/
def describeMap (file : Text) (map : LineMap) : String :=
  String.ofList file ++ ": " ++ toString map.size ++ " synthetic line(s)"
    ++ String.join (map.toList.map fun (line, origin) =>
      "\n" ++ padLeft (toString line) ++ " -> " ++ toString origin.hostLine
        ++ " (+" ++ toString origin.indentColumns ++ ")")

/-- Extracts a file and describes its line map, in words or as JSON. -/
def renderMap (ws : Workspace) (view : FileView) (file : Text) (asJson : Bool) :
    Except Error String × Workspace :=
  let (extracted, ws) := ws.extractFile view file
  (extracted.map fun e =>
    match ws.processor.lineMap? e.document with
    | none => String.ofList file ++ ": not selected by the file filter"
    | some map => if asJson then String.ofList (Json.pretty map.toValue) else describeMap file map,
    ws)

/-- Extracts a file, moves the diagnostics in the input back onto it and reports them. -/
def remapInput (ws : Workspace) (view : FileView) (file input : Text) (format : ReportFormat) :
    Except Error String × Workspace :=
  let (extracted, ws) := ws.extractFile view file
  (do
    let e ← extracted
    let diagnostics ← parseDiagnostics input
    let remapped ← ws.processor.remap diagnostics e.document
    return renderDiagnostics remapped (String.ofList file) format,
    ws)

end Workspace

end Excerpt
