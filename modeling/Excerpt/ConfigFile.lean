import Excerpt.Config
import Excerpt.FileView
import Excerpt.Path
import Excerpt.Toml.Reader

/-! # Configuration files

A configuration is looked for in a directory and those above it, the nearest first. -/

namespace Excerpt

/-- The names of configuration files, the preferred one first. -/
def configFileNames : List String :=
  ["snipmap.toml", ".snipmap.toml"]

/-- The paths at which a configuration may stand, the preferred ones first. -/
def configCandidates (directory : Text) : List Text :=
  (Path.selfAndAncestors directory).flatMap fun d =>
    configFileNames.map fun name => Path.join d name.toList

/-- The first path at which something stands. -/
def findConfigFile (view : FileView) (directory : Text) : Option Text :=
  (configCandidates directory).find? view.isPresent

/-- The update in a configuration text. -/
def parseConfigUpdate (t : Text) : Except Error ConfigUpdate :=
  match (Toml.parse t).bind ConfigUpdate.ofValue? with
  | some update => .ok update
  | none => .error .toml

/-- Reads a configuration file over the default configuration. -/
def readConfigFile (view : FileView) (path : Text) : Except Error Config := do
  let update ← parseConfigUpdate (← view.readText path)
  return update.toConfig

/-- The configuration that holds in a directory. Without a file it is the default one. -/
def readConfig (view : FileView) (directory : Text) : Except Error Config :=
  match findConfigFile view directory with
  | some path => readConfigFile view path
  | none => .ok {}

end Excerpt
