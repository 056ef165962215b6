import Excerpt.CommandLine.Help
import Excerpt.Workspace

/-! # Running the command line

A run is planned from what can be seen of the files. A plan that writes a file succeeds only if
the writing does. -/

namespace Excerpt.CommandLine

/-- What a run shows: the exit code, what it prints, and the error it reports. -/
structure Outcome where
  exit : Nat
  stdout : String
  errorLine : Option String
  deriving DecidableEq, Repr

namespace Outcome

def success (stdout : String) : Outcome :=
  ⟨0, stdout, none⟩

/-- A reported error. -/
def failure (stage : String) (e : Error) : Outcome :=
  ⟨1, "", some (stage ++ ": " ++ e.message)⟩

end Outcome

/-- What is left to do after everything has been read. -/
inductive Plan where
  | finish (outcome : Outcome)
  | write (path text : Text)
  deriving DecidableEq, Repr

def versionText : String :=
  "snipmap 0.1.0\n"

/-- The outcome when no command runs. -/
def Interruption.outcome : Interruption → Outcome
  | .usage => ⟨2, "", none⟩
  | .help command => .success (helpText command)
  | .version => .success versionText

/-- Where the files are, what can be seen of them, and what comes in. -/
structure Environment where
  view : FileView
  workingDirectory : Text
  stdin : Except FileError Text

/-- The directory that paths are meant from. -/
def Invocation.baseDirectory (i : Invocation) (env : Environment) : Text :=
  (i.directory.map String.toList).getD env.workingDirectory

/-- The configuration of a run: the file that is named, or the nearest one above the base
directory. -/
def Invocation.readConfig (i : Invocation) (env : Environment) : Except Error Config :=
  match i.config with
  | some path => readConfigFile env.view path.toList
  | none => Excerpt.readConfig env.view (i.baseDirectory env)

/-- The diagnostics that are to be moved, from a file or from the standard input. -/
def readDiagnosticsInput (ws : Workspace) (env : Environment) (file : Option String) :
    Except Error Text :=
  match file with
  | some file => env.view.readText (ws.resolve file.toList)
  | none =>
    match env.stdin with
    | .ok t => .ok t
    | .error cause => .error (.file cause)

/-- The plan of a command in a workspace. -/
def Command.plan (c : Command) (ws : Workspace) (env : Environment) : Except Error Plan :=
  match c with
  | .extract file none => do
    let extracted ← (ws.extractFile env.view file.toList).1
    return .finish (.success (String.ofList extracted.text))
  | .extract file (some output) => do
    let (path, text) ← (ws.extractTo env.view file.toList output.toList).1
    return .write path text
  | .map file json => do
    let description ← (ws.renderMap env.view file.toList json).1
    return .finish (.success (description ++ "\n"))
  | .remap file diagnostics format => do
    let input ← readDiagnosticsInput ws env diagnostics
    let report ← (ws.remapInput env.view file.toList input format).1
    return .finish (.success (if report.isEmpty then "" else report ++ "\n"))

/-- The plan of an invocation. The configuration is read first, then the workspace is set up, and
then the command runs. -/
def Invocation.plan (i : Invocation) (env : Environment) : Plan :=
  match i.readConfig env with
  | .error e => .finish (.failure "Error reading configuration" e)
  | .ok config =>
    match Workspace.ofConfig config (i.baseDirectory env) with
    | .error e => .finish (.failure "Error initializing" e)
    | .ok ws =>
      match i.command.plan ws env with
      | .error e => .finish (.failure "Error" e)
      | .ok plan => plan

/-- The plan of a run. -/
def plan (args : List String) (env : Environment) : Plan :=
  match readArguments args with
  | .error interruption => .finish interruption.outcome
  | .ok invocation => invocation.plan env

/-- The outcome after a file has been written, or could not be. -/
def writtenOutcome {α : Type} : Except FileError α → Outcome
  | .ok _ => .success ""
  | .error cause => .failure "Error" (.file cause)

/-- The path of a location. -/
def locationPath (location : Location) : Text :=
  '/' :: Path.ofParts location

/-- Carries out a plan on a tree of files. -/
def Plan.carryOut (p : Plan) (tree : FileTree) : Outcome × FileTree :=
  match p with
  | .finish outcome => (outcome, tree)
  | .write path text =>
    match tree.write path text with
    | .ok written => (writtenOutcome (.ok written), written)
    | .error cause => (writtenOutcome (.error cause : Except FileError FileTree), tree)

/-- Runs the command line on a tree of files. What comes in may not be readable as a text. -/
def runOn (args : List String) (stdin : Except FileError Text) (tree : FileTree) :
    Outcome × FileTree :=
  (plan args ⟨tree.view, locationPath tree.workingDirectory, stdin⟩).carryOut tree

/-- Runs the command line on a tree of files and a text. -/
def run (args : List String) (stdin : Text) (tree : FileTree) : Outcome × FileTree :=
  runOn args (.ok stdin) tree

end Excerpt.CommandLine
