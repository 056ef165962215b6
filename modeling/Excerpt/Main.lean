import Excerpt.CommandLine.Run

/-! # The program

Reads from the disk whatever a run may ask for, plans the run, and carries the plan out. -/

namespace Excerpt.CommandLine

/-- The number of the system error for a part of a path that is no directory. -/
def notDirectoryCode : UInt32 := 20

def fileErrorOf : IO.Error → FileError
  | .noFileOrDirectory .. => .notFound
  | .inappropriateType _ code _ => if code = notDirectoryCode then .notDirectory else .isDirectory
  | e => .notReadable (toString e)

def decode (bytes : ByteArray) : Except FileError Text :=
  match String.fromUTF8? bytes with
  | some s => .ok s.toList
  | none => .error .notUtf8

def readFromDisk (path : Text) : IO (Except FileError Text) := do
  try
    return decode (← IO.FS.readBinFile (String.ofList path))
  catch e =>
    return .error (fileErrorOf e)

def readStdin : IO (Except FileError Text) := do
  return decode (← (← IO.getStdin).readBinToEnd)

/-- The paths that a run may read. -/
def Invocation.paths (i : Invocation) (workingDirectory : Text) : List Text :=
  let base := (i.directory.map String.toList).getD workingDirectory
  let configs := match i.config with
    | some path => [path.toList]
    | none => configCandidates base
  let files := match i.command with
    | .extract file _ => [file]
    | .map file _ => [file]
    | .remap file diagnostics _ => file :: diagnostics.toList
  configs ++ files.map fun file => Path.join base file.toList

/-- What can be seen of the files at some paths. -/
def survey (paths : List Text) : IO FileView := do
  let found ← paths.mapM fun path => return (path, ← readFromDisk path)
  let read (path : Text) : Except FileError Text :=
    (found.lookup path).getD (.error .notFound)
  let isPresent (path : Text) : Bool :=
    match read path with
    | .error .notFound => false
    | .error .notDirectory => false
    | _ => true
  return ⟨read, isPresent⟩

/-- Whether a command takes its input from the standard input. -/
def Invocation.readsStdin (i : Invocation) : Bool :=
  match i.command with
  | .remap _ none _ => true
  | _ => false

def report (outcome : Outcome) : IO UInt32 := do
  IO.print outcome.stdout
  if let some line := outcome.errorLine then IO.eprintln line
  return outcome.exit.toUInt32

def writeToDisk (path text : Text) : IO (Except FileError Unit) := do
  try
    IO.FS.writeFile (String.ofList path) (String.ofList text)
    return .ok ()
  catch e =>
    return .error (fileErrorOf e)

def execute (i : Invocation) : IO UInt32 := do
  let workingDirectory := (← IO.currentDir).toString.toList
  let view ← survey (i.paths workingDirectory)
  let stdin ← if i.readsStdin then readStdin else pure (.ok [])
  match i.plan ⟨view, workingDirectory, stdin⟩ with
  | .finish outcome => report outcome
  | .write path text => report (writtenOutcome (← writeToDisk path text))

end Excerpt.CommandLine

open Excerpt.CommandLine in
def main (args : List String) : IO UInt32 :=
  match readArguments args with
  | .error interruption => report interruption.outcome
  | .ok invocation => execute invocation
