import Excerpt.Error
import Excerpt.Json.Reader

/-! # Diagnostics

The findings of an analyser. Only their positions are understood here; every other member of
their records is carried along as it came. -/

namespace Excerpt

/-- A finding. One without a line concerns its document as a whole. The members in `extra` are
those that have no field. -/
structure Diagnostic where
  line : Option Nat := none
  column : Option Nat := none
  rule : String := ""
  severity : String := ""
  text : String := ""
  extra : List (String × Value) := []
  deriving BEq, Repr

/-- What an analyser found in one document. -/
structure AnalysisResult where
  source : Option String := none
  warnings : List Diagnostic := []
  extra : List (String × Value) := []
  deriving BEq, Repr

namespace Diagnostic

/-- The keys of the members that have a field. -/
def reserved : List String :=
  ["line", "column", "rule", "severity", "text"]

def ofValue? (v : Value) : Option Diagnostic := do
  let members ← v.toRecord?
  let line ← Value.optional? Value.toNat? "line" members
  let column ← Value.optional? Value.toNat? "column" members
  let rule ← Value.withDefault? Value.toText? "" "rule" members
  let severity ← Value.withDefault? Value.toText? "" "severity" members
  let text ← Value.withDefault? Value.toText? "" "text" members
  return ⟨line, column, rule, severity, text, Value.extraMembers reserved members⟩

/-- The record of a diagnostic: its fields in a fixed order, without the empty ones, and then the
extra members. -/
def toValue (d : Diagnostic) : Value :=
  .record (Value.optionalMember .ofNat "line" d.line
    ++ Value.optionalMember .ofNat "column" d.column
    ++ Value.textMember "rule" d.rule
    ++ Value.textMember "severity" d.severity
    ++ Value.textMember "text" d.text
    ++ d.extra)

/-- A diagnostic of a document as a whole. -/
def ofRule (rule severity text : String) : Diagnostic :=
  { rule := rule, severity := severity, text := text }

/-- The diagnostic at a position. -/
def withPosition (d : Diagnostic) (line column : Nat) : Diagnostic :=
  { d with line := some line, column := some column }

def isDocumentLevel (d : Diagnostic) : Bool :=
  d.line.isNone

end Diagnostic

namespace AnalysisResult

def reserved : List String :=
  ["source", "warnings"]

/-- A list of diagnostics, all of which have to be valid. -/
def diagnostics? (v : Value) : Option (List Diagnostic) := do
  (← v.toList?).mapM Diagnostic.ofValue?

def ofValue? (v : Value) : Option AnalysisResult := do
  let members ← v.toRecord?
  let source ← Value.optional? Value.toText? "source" members
  let warnings ← Value.withDefault? diagnostics? [] "warnings" members
  return ⟨source, warnings, Value.extraMembers reserved members⟩

def toValue (r : AnalysisResult) : Value :=
  .record (Value.optionalMember .text "source" r.source
    ++ [("warnings", .list (r.warnings.map Diagnostic.toValue))]
    ++ r.extra)

end AnalysisResult

/-- The diagnostics in a value: a list of them, or the warnings of a result. -/
def diagnosticsOfValue? (v : Value) : Option (List Diagnostic) :=
  match v with
  | .list _ => AnalysisResult.diagnostics? v
  | v => (AnalysisResult.ofValue? v).map AnalysisResult.warnings

/-- Reads the diagnostics in a JSON text. -/
def parseDiagnostics (input : Text) : Except Error (List Diagnostic) :=
  match (Json.parse input).bind diagnosticsOfValue? with
  | some diagnostics => .ok diagnostics
  | none => .error .json

end Excerpt
