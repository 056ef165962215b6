import Excerpt.Diagnostic
import Excerpt.Json.Printer
import Excerpt.LineMap

/-! # Reports

Diagnostics as lines of text or as JSON. -/

namespace Excerpt

/-- A position in a host document, or in one that has no name. -/
structure TextLocation where
  file : Option String
  line : Nat
  column : Option Nat
  deriving DecidableEq, Repr

/-- The position as `file:line:column`, as far as it is known. -/
def TextLocation.describe (l : TextLocation) : String :=
  let start := match l.file with
    | some file => file ++ ":" ++ toString l.line
    | none => "line " ++ toString l.line
  match l.column with
  | some column => start ++ ":" ++ toString column
  | none => start

/-- Where a diagnostic stands in a source, if it has a line. -/
def Diagnostic.location? (d : Diagnostic) (source : String) : Option TextLocation :=
  d.line.map fun line => ⟨some source, line, d.column⟩

inductive ReportFormat where
  | text
  | json
  deriving DecidableEq, Repr

namespace ReportFormat

/-- The format of a report when none is asked for. -/
def default : ReportFormat :=
  .text

def name : ReportFormat → String
  | .text => "text"
  | .json => "json"

/-- Reads a name in capital or small letters. Text is also called plain. -/
def ofName (name : String) : Except Error ReportFormat :=
  match name.map Char.toLower with
  | "text" => .ok .text
  | "plain" => .ok .text
  | "json" => .ok .json
  | _ => .error (.unknownFormat name)

/-- The format with exactly this name. -/
def ofExactName? (name : String) : Option ReportFormat :=
  match name with
  | "text" => some .text
  | "json" => some .json
  | _ => none

/-- A format in a value is its exact name, alone or as the key of a null. -/
def ofValue? : Value → Option ReportFormat
  | .text name => ofExactName? name
  | .record [(name, .null)] => ofExactName? name
  | _ => none

def toValue (f : ReportFormat) : Value :=
  .text f.name

end ReportFormat

namespace Diagnostic

/-- One line of a text report. -/
def reportLine (source : String) (d : Diagnostic) : String :=
  let position := match d.location? source with
    | some location => location.describe
    | none => source
  position ++ ": " ++ d.severity ++ " " ++ d.text ++ " (" ++ d.rule ++ ")"

end Diagnostic

/-- The report of diagnostics against a source. -/
def renderDiagnostics (diagnostics : List Diagnostic) (source : String) :
    ReportFormat → String
  | .json => String.ofList (Json.pretty (.list (diagnostics.map Diagnostic.toValue)))
  | .text => "\n".intercalate (diagnostics.map (Diagnostic.reportLine source))

/-- An origin as a record. -/
def LineOrigin.toValue (o : LineOrigin) : Value :=
  .record [("host_line", .ofNat o.hostLine), ("indent_columns", .ofNat o.indentColumns)]

/-- A line map as a list of records, one a line. -/
def LineMap.toValue (map : LineMap) : Value :=
  .list (map.toList.map fun (line, origin) =>
    .record [("line", .ofNat line), ("host_line", .ofNat origin.hostLine),
      ("indent_columns", .ofNat origin.indentColumns)])

end Excerpt
