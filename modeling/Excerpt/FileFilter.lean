import Excerpt.Error
import Excerpt.Pattern.Matching
import Excerpt.Value

/-! # Which documents take part -/

namespace Excerpt

/-! ## Suffixes of file names -/

/-- Slashes of both kinds separate the parts of a path. -/
def isSeparator (c : Char) : Bool :=
  c == '/' || c == '\\'

/-- What stands behind the last separator. -/
def fileName (path : Text) : Text :=
  (path.reverse.takeWhile (!isSeparator ·)).reverse

/-- The suffix of a file name starts at its first dot. A name that ends with that dot has none. -/
def fileSuffix (path : Text) : Text :=
  match (fileName path).dropWhile (· != '.') with
  | dot :: c :: rest => dot :: c :: rest
  | _ => []

/-- The suffixes that are taken when none are given. -/
def defaultSuffixes : List String :=
  [".html", ".htm", ".xhtml", ".vue", ".svelte", ".md", ".markdown", ".liquid", ".php"]

/-! ## Policies -/

/-- Documents are chosen by patterns for their whole paths or by the suffixes of their names. -/
inductive FilterPolicy where
  | patterns (sources : List String)
  | suffixes (accepted : List String)
  deriving DecidableEq, Repr

namespace FilterPolicy

def default : FilterPolicy :=
  .patterns []

/-- A policy is a record of a single member. -/
def ofValue? : Value → Option FilterPolicy
  | .record [("patterns", v)] => v.toTexts?.map .patterns
  | .record [("extensions", v)] => v.toTexts?.map .suffixes
  | _ => none

def toValue : FilterPolicy → Value
  | .patterns sources => .record [("patterns", .ofTexts sources)]
  | .suffixes accepted => .record [("extensions", .ofTexts accepted)]

end FilterPolicy

/-- A policy with its patterns ready for matching. -/
inductive FileFilter where
  | patterns (nodes : List Pattern.Node)
  | suffixes (accepted : List String)
  deriving DecidableEq, Repr

namespace FileFilter

/-- The filter that accepts every document. -/
def all : FileFilter :=
  .patterns []

def ofPolicy : FilterPolicy → Except Error FileFilter
  | .patterns sources =>
    match sources.mapM fun source => Pattern.compile source.toList with
    | some nodes => .ok (.patterns nodes)
    | none => .error .pattern
  | .suffixes accepted => .ok (.suffixes (if accepted.isEmpty then defaultSuffixes else accepted))

/-- Whether a document with this path takes part. An empty list of patterns accepts all. -/
def accepts (filter : FileFilter) (path : String) : Bool :=
  match filter with
  | .patterns nodes => nodes.isEmpty || nodes.any fun node => node.isMatch path.toList
  | .suffixes accepted => accepted.contains (String.ofList (fileSuffix path.toList))

end FileFilter

end Excerpt
