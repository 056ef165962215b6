import Excerpt.FileView
import Excerpt.Path

/-! # File trees

A tree of files in memory with a directory at hand. Paths are followed part by part: every part but
the last has to lead to a directory, and two dots lead up from the directory that was reached. -/

namespace Excerpt

/-- A file holds a text, or bytes that may or may not be one. -/
inductive FileContent where
  | text (t : Text)
  | bytes (b : List UInt8)
  deriving DecidableEq, Repr

/-- The text of a file, if its bytes are one in UTF-8. -/
def FileContent.text? : FileContent → Option Text
  | .text t => some t
  | .bytes b => (String.fromUTF8? ⟨b.toArray⟩).map String.toList

inductive FileNode where
  | file (content : FileContent)
  | directory
  deriving DecidableEq, Repr

/-- The names that lead to a node from the root. -/
abbrev Location := List Text

structure FileTree where
  workingDirectory : Location
  nodes : List (Location × FileNode)
  deriving DecidableEq, Repr

namespace FileTree

/-- The node at a location. The root is a directory. -/
def node? (tree : FileTree) (location : Location) : Option FileNode :=
  if location.isEmpty then some .directory else tree.nodes.lookup location

def isDirectory (tree : FileTree) (location : Location) : Bool :=
  tree.node? location == some .directory

/-- Follows parts of a path from a location on. -/
def walk (tree : FileTree) : Location → List Text → Except FileError Location
  | location, [] => .ok location
  | location, part :: parts =>
    if !tree.isDirectory location then .error .notDirectory
    else if Path.isVoid part then tree.walk location parts
    else if part = ['.', '.'] then tree.walk location.dropLast parts
    else if (tree.node? (location ++ [part])).isNone then .error .notFound
    else tree.walk (location ++ [part]) parts

/-- Where a path starts. -/
def origin (tree : FileTree) (path : Text) : Location :=
  if Path.isAbsolute path then [] else tree.workingDirectory

/-- The location that a path leads to. The empty path leads nowhere. -/
def locate (tree : FileTree) (path : Text) : Except FileError Location :=
  if path.isEmpty then .error .notFound
  else tree.walk (tree.origin path) (Path.parts path)

def read (tree : FileTree) (path : Text) : Except FileError Text := do
  let location ← tree.locate path
  match tree.node? location with
  | some (.file content) =>
    match content.text? with
    | some t => return t
    | none => throw .notUtf8
  | some .directory => throw .isDirectory
  | none => throw .notFound

def isPresent (tree : FileTree) (path : Text) : Bool :=
  (tree.locate path).isOk

def view (tree : FileTree) : FileView :=
  ⟨tree.read, tree.isPresent⟩

/-- Puts a node at a location in place of an older one. -/
def putNode (location : Location) (node : FileNode) :
    List (Location × FileNode) → List (Location × FileNode)
  | [] => [(location, node)]
  | (other, old) :: rest =>
    if location = other then (location, node) :: rest
    else (other, old) :: putNode location node rest

def put (tree : FileTree) (location : Location) (node : FileNode) : FileTree :=
  { tree with nodes := putNode location node tree.nodes }

/-- Where a file is written: the last part names it in the directory that the others lead to, and
may not stand for a directory itself. -/
def locateForWriting (tree : FileTree) (path : Text) : Except FileError Location := do
  if path.isEmpty then throw .notFound
  match ((Path.parts path).filter (!·.isEmpty)).reverse with
  | [] => throw .isDirectory
  | last :: others =>
    let directory ← tree.walk (tree.origin path) others.reverse
    if !tree.isDirectory directory then throw .notDirectory
    if path.getLast? = some '/' || last = ['.'] || last = ['.', '.'] then throw .isDirectory
    let location := directory ++ [last]
    if tree.isDirectory location then throw .isDirectory
    return location

/-- Writes a text file. When that fails the tree stays as it is. -/
def write (tree : FileTree) (path t : Text) : Except FileError FileTree := do
  let location ← tree.locateForWriting path
  return tree.put location (.file (.text t))

/-- The locations on the way from the root, the last one among them. -/
def stations : Location → List Location
  | [] => []
  | name :: rest => [name] :: (stations rest).map (name :: ·)

/-- A tree with nothing in it but the directory at hand. -/
def empty (workingDirectory : Location) : FileTree :=
  ⟨workingDirectory, (stations workingDirectory).map (·, .directory)⟩

/-- Makes a directory below the one at hand, and those on the way to it. -/
def makeDirectory (tree : FileTree) (names : List Text) : FileTree :=
  (stations names).foldl
    (fun tree location => tree.put (tree.workingDirectory ++ location) .directory) tree

/-- Makes a file below the directory at hand, and the directories on the way to it. -/
def makeFile (tree : FileTree) (names : List Text) (content : FileContent) : FileTree :=
  (tree.makeDirectory names.dropLast).put (tree.workingDirectory ++ names) (.file content)

end FileTree

end Excerpt
