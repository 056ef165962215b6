import Excerpt.Report

/-! # Arguments of the command line

Options in front of the command and behind it are read in the same way, each set with its own
options. The options for all commands may stand in both places; behind the command they win. -/

namespace Excerpt.CommandLine

/-- What an option is for. -/
inductive OptionKind where
  | config
  | directory
  | verbose
  | output
  | json
  | diagnostics
  | format
  | help
  | version
  deriving DecidableEq, Repr

namespace OptionKind

/-- The name behind two hyphens. -/
def long : OptionKind → String
  | .config => "config"
  | .directory => "directory"
  | .verbose => "verbose"
  | .output => "output"
  | .json => "json"
  | .diagnostics => "diagnostics"
  | .format => "format"
  | .help => "help"
  | .version => "version"

/-- The letter behind one hyphen. -/
def short? : OptionKind → Option Char
  | .config => some 'c'
  | .directory => some 'C'
  | .verbose => some 'v'
  | .output => some 'o'
  | .json => none
  | .diagnostics => some 'd'
  | .format => some 'f'
  | .help => some 'h'
  | .version => some 'V'

def takesValue : OptionKind → Bool
  | .config => true
  | .directory => true
  | .output => true
  | .diagnostics => true
  | .format => true
  | _ => false

/-- A path is not empty, and a format has its exact name. -/
def accepts (kind : OptionKind) (value : String) : Bool :=
  match kind with
  | .format => (ReportFormat.ofExactName? value).isSome
  | _ => !value.isEmpty

end OptionKind

/-- Why reading the arguments stops early. Help is asked for with the program or with a command. -/
inductive Interruption where
  | usage
  | help (command : Option String)
  | version
  deriving DecidableEq, Repr

/-- An interruption behind the name of a command, where help is the help of that command. -/
def Interruption.within (name : String) : Interruption → Interruption
  | .help _ => .help (some name)
  | interruption => interruption

/-- The options of one place with their values, the last one first. -/
abbrev GivenOptions := List (OptionKind × String)

/-- Adds an option that has not been given at this place. Help and version end everything. -/
def addOption (given : GivenOptions) (kind : OptionKind) (value : String) :
    Except Interruption GivenOptions :=
  match kind with
  | .help => .error (.help none)
  | .version => .error .version
  | kind =>
    if (given.lookup kind).isSome then .error .usage
    else if kind.takesValue && !kind.accepts value then .error .usage
    else .ok ((kind, value) :: given)

/-- Whether an argument is an option and so no value of one. -/
def looksLikeOption (arg : String) : Bool :=
  match arg.toList with
  | '-' :: _ :: _ => true
  | _ => false

/-- What a group of letters behind one hyphen comes to: the options so far, and the last one if its
value is the next argument. -/
structure Letters where
  given : GivenOptions
  pending : Option OptionKind

/-- Reads letters. The first one that takes a value takes the other letters for it, without an
equals sign in front of them. -/
def readLetters (kinds : List OptionKind) (given : GivenOptions) :
    Text → Except Interruption Letters
  | [] => .ok ⟨given, none⟩
  | c :: rest =>
    match kinds.find? fun kind => kind.short? == some c with
    | none => .error .usage
    | some kind =>
      if kind.takesValue then
        match rest with
        | [] => .ok ⟨given, some kind⟩
        | '=' :: value => (addOption given kind (String.ofList value)).map (⟨·, none⟩)
        | value => (addOption given kind (String.ofList value)).map (⟨·, none⟩)
      else do
        let given ← addOption given kind ""
        readLetters kinds given rest

/-- Reads a name behind two hyphens, with a value behind an equals sign if there is one. -/
def readLongName (kinds : List OptionKind) (given : GivenOptions) (t : Text) :
    Except Interruption Letters :=
  let name := String.ofList (t.takeWhile (· != '='))
  match kinds.find? fun kind => kind.long == name with
  | none => .error .usage
  | some kind =>
    match t.dropWhile (· != '='), kind.takesValue with
    | [], true => .ok ⟨given, some kind⟩
    | [], false => (addOption given kind "").map (⟨·, none⟩)
    | _ :: value, true => (addOption given kind (String.ofList value)).map (⟨·, none⟩)
    | _ :: _, false => .error .usage

/-- The options of one place and the other arguments. In front of a command the first argument that
is no option ends the place, and `rest` is what follows. -/
structure Place where
  given : GivenOptions
  operands : List String
  rest : List String

/-- Reads the arguments of one place. Behind two hyphens there are no more options. A command takes
one operand, and an empty one is none. -/
def readPlace (kinds : List OptionKind) (upToOperand : Bool) (given : GivenOptions)
    (operands : List String) (pending : Option OptionKind) :
    List String → Except Interruption Place
  | [] => if pending.isSome then .error .usage else .ok ⟨given, operands.reverse, []⟩
  | arg :: args =>
    match pending with
    | some kind =>
      if looksLikeOption arg then .error .usage
      else do
        let given ← addOption given kind arg
        readPlace kinds upToOperand given operands none args
    | none =>
      match arg.toList with
      | ['-', '-'] =>
        if upToOperand then if args.isEmpty then .ok ⟨given, [], []⟩ else .error .usage
        else .ok ⟨given, operands.reverse ++ args, []⟩
      | '-' :: '-' :: name => do
        let read ← readLongName kinds given name
        readPlace kinds upToOperand read.given operands read.pending args
      | '-' :: c :: letters => do
        let read ← readLetters kinds given (c :: letters)
        readPlace kinds upToOperand read.given operands read.pending args
      | _ =>
        if upToOperand then .ok ⟨given, [arg], args⟩
        else if arg.isEmpty || !operands.isEmpty then .error .usage
        else readPlace kinds upToOperand given [arg] none args

/-! ## Commands -/

inductive Command where
  | extract (file : String) (output : Option String)
  | map (file : String) (json : Bool)
  | remap (file : String) (diagnostics : Option String) (format : ReportFormat)
  deriving DecidableEq, Repr

/-- A command with the options for all commands. -/
structure Invocation where
  config : Option String
  directory : Option String
  verbose : Bool
  command : Command
  deriving DecidableEq, Repr

/-- The options for all commands. -/
def sharedKinds : List OptionKind :=
  [.config, .directory, .verbose, .help]

/-- The options of a command, by its name. -/
def commandKinds? (name : String) : Option (List OptionKind) :=
  match name with
  | "extract" => some [.output]
  | "map" => some [.json]
  | "remap" => some [.diagnostics, .format]
  | _ => none

/-- The command of a name with its file and options. -/
def commandOf? (name file : String) (given : GivenOptions) : Option Command :=
  match name with
  | "extract" => some (.extract file (given.lookup .output))
  | "map" => some (.map file (given.lookup .json).isSome)
  | "remap" =>
    let format := ((given.lookup .format).bind ReportFormat.ofExactName?).getD .default
    some (.remap file (given.lookup .diagnostics) format)
  | _ => none

/-- Help is asked for with the program, or with a command by its name. -/
def readHelp : List String → Interruption
  | [] => .help none
  | [name] =>
    if (commandKinds? name).isSome || name == "help" then .help (some name) else .usage
  | _ => .usage

/-- Reads what stands behind the name of a command: its options and one file. -/
def readCommand (name : String) (outer : GivenOptions) (args : List String) :
    Except Interruption Invocation := do
  let kinds ← match commandKinds? name with
    | some kinds => pure kinds
    | none => throw (if name == "help" then readHelp args else .usage)
  let inner ← (readPlace (sharedKinds ++ kinds) false [] [] none args).mapError (·.within name)
  match inner.operands with
  | [file] =>
    if file.isEmpty then throw .usage
    match commandOf? name file inner.given with
    | none => throw .usage
    | some command =>
      return {
        config := (inner.given.lookup .config).or (outer.lookup .config)
        directory := (inner.given.lookup .directory).or (outer.lookup .directory)
        verbose := (inner.given.lookup .verbose).isSome || (outer.lookup .verbose).isSome
        command := command }
  | _ => throw .usage

/-- Reads all arguments. -/
def readArguments (args : List String) : Except Interruption Invocation := do
  let outer ← readPlace (sharedKinds ++ [.version]) true [] [] none args
  match outer.operands with
  | [name] => readCommand name outer.given outer.rest
  | _ => throw .usage

end Excerpt.CommandLine
