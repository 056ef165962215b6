import Excerpt.CommandLine.Arguments

/-! # Help texts

The program and each of its commands have a help text. It is laid out as the short help is,
whatever it was asked for with: a longer one, in which `remap` would also tell what its formats
are, is left out. -/

namespace Excerpt.CommandLine

/-! ## Options -/

namespace OptionKind

/-- What an option does. -/
def about : OptionKind → String
  | .config => "Configuration file path"
  | .directory => "Working directory"
  | .verbose => "Verbose output"
  | .output => "Write the synthetic document here instead of stdout"
  | .json => "Print the line map as JSON"
  | .diagnostics => "JSON diagnostics (array or result object); read from stdin if omitted"
  | .format => "Output format [default: text] [possible values: text, json]"
  | .help => "Print help"
  | .version => "Print version"

/-- How an option is given: its letter, its name and its value. -/
def usage (kind : OptionKind) : String :=
  let letter := match kind.short? with
    | some c => String.ofList ['-', c, ',', ' ']
    | none => "    "
  letter ++ "--" ++ kind.long ++ (if kind.takesValue then " <" ++ kind.long.toUpper ++ ">" else "")

/-- What decides between options that were declared at the same place: the letter, the small one
first, or else the name. -/
def sortKey (kind : OptionKind) : String :=
  match kind.short? with
  | some c => String.ofList [c.toLower, if c.isLower then '0' else '1']
  | none => kind.long

end OptionKind

/-- Whether an option is listed in front of another one. Each has its place among the options that
it was declared with. -/
def isListedBefore (a b : OptionKind × Nat) : Bool :=
  a.2 < b.2 || (a.2 == b.2 && a.1.sortKey ≤ b.1.sortKey)

/-- The options of a command in the order of its help. The options for all commands have kept the
places at which they were declared, and so stand between those of the command. -/
def listedKinds (kinds : List OptionKind) : List OptionKind :=
  ((sharedKinds.zipIdx ++ kinds.zipIdx).mergeSort isListedBefore).map Prod.fst

/-- The help of a command lists the options that are read behind its name, each one once. -/
theorem listedKinds_perm (kinds : List OptionKind) :
    (listedKinds kinds).Perm (sharedKinds ++ kinds) := by
  have hsorted := (List.mergeSort_perm (sharedKinds.zipIdx ++ kinds.zipIdx) isListedBefore).map
    Prod.fst
  rwa [List.map_append, List.zipIdx_map_fst, List.zipIdx_map_fst] at hsorted

/-! ## Texts -/

/-- Rows of two columns. The second column starts two blanks behind the first one. -/
def columns (rows : List (String × String)) : String :=
  let width := (rows.map fun row => row.1.length).foldl max 0
  String.join (rows.map fun (entry, about) =>
    "  " ++ entry.pushn ' ' (width - entry.length) ++ "  " ++ about ++ "\n")

/-- Rows below their title. -/
def titled (title : String) (rows : List (String × String)) : String :=
  "\n" ++ title ++ ":\n" ++ columns rows

def optionRows (kinds : List OptionKind) : List (String × String) :=
  kinds.map fun kind => (kind.usage, kind.about)

/-- The commands and what they do. -/
def commandRows : List (String × String) :=
  [("extract", "Print the synthetic document built from a file's snippets"),
    ("map", "Show the host line behind every synthetic line"),
    ("remap", "Translate analyzer diagnostics back onto the host file"),
    ("help", "Print this message or the help of the given subcommand(s)")]

/-- The operand of a command and what it is for. -/
def operandRow (name : String) : String × String :=
  match name with
  | "remap" => ("<FILE>", "Host file the diagnostics belong to")
  | "help" => ("[COMMAND]...", "Print help for the subcommand(s)")
  | _ => ("<FILE>", "Host file to read")

def programHelp : String :=
  "Extract embedded snippets and remap analyzer diagnostics\n\n"
    ++ "Usage: snipmap [OPTIONS] <COMMAND>\n"
    ++ titled "Commands" commandRows
    ++ titled "Options" (optionRows (sharedKinds ++ [.version]))

/-- The help of a command. The command that asks for help has no options. -/
def commandHelp (name : String) : String :=
  let usage (options : String) : String :=
    (commandRows.lookup name).getD "" ++ "\n\n"
      ++ "Usage: snipmap " ++ name ++ options ++ " " ++ (operandRow name).1 ++ "\n"
      ++ titled "Arguments" [operandRow name]
  match commandKinds? name with
  | some kinds => usage " [OPTIONS]" ++ titled "Options" (optionRows (listedKinds kinds))
  | none => usage ""

/-- The help that is asked for: that of the program, or that of a command. -/
def helpText : Option String → String
  | none => programHelp
  | some name => commandHelp name

end Excerpt.CommandLine
