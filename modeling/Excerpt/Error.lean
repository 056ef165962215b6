import Excerpt.DocumentId

/-! # What can go wrong -/

namespace Excerpt

/-- Why a file could not be read or written. -/
inductive FileError where
  | notFound
  | notDirectory
  | isDirectory
  | notUtf8
  | notReadable (reason : String)
  deriving DecidableEq, Repr

inductive Error where
  | file (cause : FileError)
  | toml
  | json
  | pattern
  | unknownDocument (document : DocumentId)
  | unknownFormat (name : String)
  deriving DecidableEq, Repr

namespace FileError

def message : FileError → String
  | .notFound => "No such file or directory (os error 2)"
  | .notDirectory => "Not a directory (os error 20)"
  | .isDirectory => "Is a directory (os error 21)"
  | .notUtf8 => "stream did not contain valid UTF-8"
  | .notReadable reason => reason

end FileError

namespace Error

def message : Error → String
  | .file cause => "I/O error: " ++ cause.message
  | .toml => "TOML parse error"
  | .json => "JSON error"
  | .pattern => "Regex error"
  | .unknownDocument document =>
    "No line map for document " ++ document.name
      ++ ": extract must run before remapping its diagnostics"
  | .unknownFormat name => "Unknown format '" ++ name ++ "'. Valid formats: text, json"

end Error

end Excerpt
