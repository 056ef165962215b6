import Excerpt.Proofs.Diagnostic.Fields
import Excerpt.Proofs.Traversal

/-! # Texts that hold diagnostics

Diagnostics are written in two shapes, a list of objects or a result with such a list in it. The
rules below say which values have one of these shapes and what is in them; they do not call the
reader. The reader accepts exactly those values, and reads what the rules say. -/

namespace Excerpt

/-! ## Members -/

namespace Value

theorem exists_givesOptional_iff {α : Type} {encode : α → Value} {q : α → Prop} {key : String}
    {members : List (String × Value)} :
    (∃ o, GivesOptional encode key members o ∧ ∀ a ∈ o, q a) ↔
      ∀ v ∈ members.lookup key, v = .null ∨ ∃ a, q a ∧ v = encode a := by
  constructor
  · rintro ⟨o, hlookup | ⟨hlookup, -⟩, hq⟩ v hv
    · rw [hlookup] at hv
      obtain ⟨a, ha, rfl⟩ := Option.map_eq_some_iff.mp hv
      exact .inr ⟨a, hq a ha, rfl⟩
    · rw [hlookup] at hv
      exact .inl (Option.some.inj hv).symm
  · intro h
    cases hlookup : members.lookup key with
    | none => exact ⟨none, .inl hlookup, by simp⟩
    | some v =>
      rcases h v hlookup with rfl | ⟨a, ha, rfl⟩
      · exact ⟨none, .inr ⟨hlookup, rfl⟩, by simp⟩
      · exact ⟨some a, .inl hlookup, by simpa using ha⟩

theorem exists_givesText_iff {key : String} {members : List (String × Value)} :
    (∃ s, GivesText key members s) ↔ ∀ v ∈ members.lookup key, ∃ s, v = .text s := by
  unfold GivesText
  cases hlookup : members.lookup key with
  | none => simp
  | some v => simp

end Value

/-! ## Objects of diagnostics -/

namespace Diagnostic

/-- The objects that are diagnostics: the position is missing, null or of naturals of 64 bits, and
the texts are missing or texts. There may be any other members. -/
def IsObject (v : Value) : Prop :=
  ∃ members, v = .record members ∧
    (∀ key ∈ ["line", "column"], ∀ w ∈ members.lookup key,
      w = .null ∨ ∃ n, n ≤ maxWord ∧ w = .ofNat n) ∧
    ∀ key ∈ ["rule", "severity", "text"], ∀ w ∈ members.lookup key, ∃ s, w = .text s

/-- What the members of an object say of a diagnostic. -/
structure SaidBy (members : List (String × Value)) (d : Diagnostic) : Prop where
  line : Value.GivesOptional .ofNat "line" members d.line
  line_le : ∀ n ∈ d.line, n ≤ maxWord
  column : Value.GivesOptional .ofNat "column" members d.column
  column_le : ∀ n ∈ d.column, n ≤ maxWord
  rule : Value.GivesText "rule" members d.rule
  severity : Value.GivesText "severity" members d.severity
  text : Value.GivesText "text" members d.text
  extra : d.extra = members.filter fun m => m.1 ∉ reserved

/-- The diagnostic that an object stands for. -/
def Decodes (v : Value) (d : Diagnostic) : Prop :=
  ∃ members, v = .record members ∧ SaidBy members d

theorem readFrom_iff_saidBy {members : List (String × Value)} {d : Diagnostic} :
    ReadFrom members d ↔ SaidBy members d := by
  have hextra : Value.extraMembers reserved members =
      members.filter fun m => m.1 ∉ reserved := by
    simp [Value.extraMembers]
  constructor
  · intro h
    obtain ⟨hline, hline_le⟩ := Value.optional?_toNat?_eq_some_iff.mp h.line
    obtain ⟨hcolumn, hcolumn_le⟩ := Value.optional?_toNat?_eq_some_iff.mp h.column
    exact {
      line := hline
      line_le := hline_le
      column := hcolumn
      column_le := hcolumn_le
      rule := Value.withDefault?_toText?_eq_some_iff.mp h.rule
      severity := Value.withDefault?_toText?_eq_some_iff.mp h.severity
      text := Value.withDefault?_toText?_eq_some_iff.mp h.text
      extra := h.extra.trans hextra }
  · intro h
    exact {
      line := Value.optional?_toNat?_eq_some_iff.mpr ⟨h.line, h.line_le⟩
      column := Value.optional?_toNat?_eq_some_iff.mpr ⟨h.column, h.column_le⟩
      rule := Value.withDefault?_toText?_eq_some_iff.mpr h.rule
      severity := Value.withDefault?_toText?_eq_some_iff.mpr h.severity
      text := Value.withDefault?_toText?_eq_some_iff.mpr h.text
      extra := h.extra.trans hextra.symm }

theorem ofValue?_eq_some_iff {v : Value} {d : Diagnostic} :
    ofValue? v = some d ↔ Decodes v d := by
  constructor
  · intro h
    obtain ⟨members, hv, hread⟩ := exists_readFrom h
    exact ⟨members, hv, readFrom_iff_saidBy.mp hread⟩
  · rintro ⟨members, rfl, hsaid⟩
    exact ofValue?_record_of_readFrom (readFrom_iff_saidBy.mpr hsaid)

/-- An object is a diagnostic as soon as each of its members is right on its own. -/
theorem exists_decodes_iff {v : Value} : (∃ d, Decodes v d) ↔ IsObject v := by
  constructor
  · rintro ⟨d, members, rfl, h⟩
    have hline := Value.exists_givesOptional_iff.mp ⟨d.line, h.line, h.line_le⟩
    have hcolumn := Value.exists_givesOptional_iff.mp ⟨d.column, h.column, h.column_le⟩
    have hrule := Value.exists_givesText_iff.mp ⟨d.rule, h.rule⟩
    have hseverity := Value.exists_givesText_iff.mp ⟨d.severity, h.severity⟩
    have htext := Value.exists_givesText_iff.mp ⟨d.text, h.text⟩
    exact ⟨members, rfl, by simpa using ⟨hline, hcolumn⟩, by simpa using ⟨hrule, hseverity, htext⟩⟩
  · rintro ⟨members, rfl, hpositions, htexts⟩
    obtain ⟨line, hline, hline_le⟩ := Value.exists_givesOptional_iff.mpr
      (hpositions "line" (by simp))
    obtain ⟨column, hcolumn, hcolumn_le⟩ := Value.exists_givesOptional_iff.mpr
      (hpositions "column" (by simp))
    obtain ⟨rule, hrule⟩ := Value.exists_givesText_iff.mpr (htexts "rule" (by simp))
    obtain ⟨severity, hseverity⟩ := Value.exists_givesText_iff.mpr (htexts "severity" (by simp))
    obtain ⟨text, htext⟩ := Value.exists_givesText_iff.mpr (htexts "text" (by simp))
    exact ⟨⟨line, column, rule, severity, text, _⟩, members, rfl,
      ⟨hline, hline_le, hcolumn, hcolumn_le, hrule, hseverity, htext, rfl⟩⟩

end Diagnostic

/-! ## The two shapes -/

namespace AnalysisResult

/-- The source of a result is missing, null or a text. -/
def HasSource (members : List (String × Value)) : Prop :=
  ∀ w ∈ members.lookup "source", w = .null ∨ ∃ s, w = .text s

theorem exists_optional?_source_iff {members : List (String × Value)} :
    (∃ o, Value.optional? Value.toText? "source" members = some o) ↔ HasSource members := by
  simpa [Value.optional?_toText?_eq_some_iff, HasSource] using
    @Value.exists_givesOptional_iff _ .text (fun _ => True) "source" members

theorem diagnostics?_eq_some_iff {v : Value} {ds : List Diagnostic} :
    diagnostics? v = some ds ↔
      ∃ items, v = .list items ∧ List.Forall₂ Diagnostic.Decodes items ds := by
  have hitems : ∀ items : List Value, items.mapM Diagnostic.ofValue? = some ds ↔
      List.Forall₂ Diagnostic.Decodes items ds := by
    intro items
    simp only [mapM_eq_some_iff_forall₂, Diagnostic.ofValue?_eq_some_iff]
  cases v with
  | list items => simp [diagnostics?, Value.toList?, hitems]
  | _ => simp [diagnostics?, Value.toList?]

end AnalysisResult

/-- The diagnostics in a value. Nothing matters in a result but its source and its warnings, and the
warnings count as if they stood alone. -/
inductive Reports : Value → List Diagnostic → Prop where
  | list {items : List Value} {ds : List Diagnostic} :
      List.Forall₂ Diagnostic.Decodes items ds → Reports (.list items) ds
  | quiet {members : List (String × Value)} : AnalysisResult.HasSource members →
      members.lookup "warnings" = none → Reports (.record members) []
  | warnings {members : List (String × Value)} {items : List Value} {ds : List Diagnostic} :
      AnalysisResult.HasSource members → members.lookup "warnings" = some (.list items) →
      Reports (.list items) ds → Reports (.record members) ds

/-- The values of one of the two shapes. -/
inductive IsReport : Value → Prop where
  | list {items : List Value} :
      (∀ item ∈ items, Diagnostic.IsObject item) → IsReport (.list items)
  | result {members : List (String × Value)} : AnalysisResult.HasSource members →
      (∀ w ∈ members.lookup "warnings", ∃ items, w = .list items ∧
        ∀ item ∈ items, Diagnostic.IsObject item) → IsReport (.record members)

theorem reports_list_iff {items : List Value} {ds : List Diagnostic} :
    Reports (.list items) ds ↔ List.Forall₂ Diagnostic.Decodes items ds := by
  constructor
  · rintro ⟨h⟩
    exact h
  · exact .list

theorem exists_reports_list_iff {items : List Value} :
    (∃ ds, Reports (.list items) ds) ↔ ∀ item ∈ items, Diagnostic.IsObject item := by
  simp only [reports_list_iff, exists_forall₂_iff, Diagnostic.exists_decodes_iff]

theorem isReport_list_iff {items : List Value} :
    IsReport (.list items) ↔ ∀ item ∈ items, Diagnostic.IsObject item := by
  constructor
  · rintro ⟨h⟩
    exact h
  · exact .list

/-- Whether a value holds diagnostics can be seen from its members one by one. -/
theorem exists_reports_iff {v : Value} : (∃ ds, Reports v ds) ↔ IsReport v := by
  constructor
  · rintro ⟨ds, h⟩
    cases h with
    | list h => exact .list (exists_reports_list_iff.mp ⟨ds, .list h⟩)
    | quiet hsource hwarnings => exact .result hsource (by simp [hwarnings])
    | @warnings _ items _ hsource hwarnings h =>
      refine .result hsource ?_
      intro w hw
      rw [hwarnings] at hw
      exact ⟨items, (Option.some.inj hw).symm, exists_reports_list_iff.mp ⟨ds, h⟩⟩
  · intro h
    cases h with
    | list h => exact exists_reports_list_iff.mpr h
    | @result members hsource hwarnings =>
      cases hlookup : members.lookup "warnings" with
      | none => exact ⟨[], .quiet hsource hlookup⟩
      | some w =>
        obtain ⟨items, rfl, hitems⟩ := hwarnings w hlookup
        obtain ⟨ds, hds⟩ := exists_reports_list_iff.mpr hitems
        exact ⟨ds, .warnings hsource hlookup hds⟩

theorem AnalysisResult.map_warnings_eq_some_iff {members : List (String × Value)}
    {ds : List Diagnostic} :
    (ofValue? (.record members)).map warnings = some ds ↔ Reports (.record members) ds := by
  constructor
  · intro h
    obtain ⟨r, hr, rfl⟩ := Option.map_eq_some_iff.mp h
    obtain ⟨_, ⟨⟩, hread⟩ := exists_readFrom hr
    have hsource := exists_optional?_source_iff.mp ⟨_, hread.source⟩
    have hwarnings := hread.warnings
    unfold Value.withDefault? at hwarnings
    split at hwarnings
    · rename_i hlookup
      rw [← Option.some.inj hwarnings]
      exact .quiet hsource hlookup
    · rename_i w hlookup
      obtain ⟨items, rfl, hitems⟩ := diagnostics?_eq_some_iff.mp hwarnings
      exact .warnings hsource hlookup (.list hitems)
  · intro h
    cases h with
    | quiet hsource hlookup =>
      obtain ⟨source, hsource⟩ := exists_optional?_source_iff.mpr hsource
      simp [ofValue?, Value.toRecord?, hsource, Value.withDefault?, hlookup]
    | @warnings _ items _ hsource hlookup hitems =>
      obtain ⟨source, hsource⟩ := exists_optional?_source_iff.mpr hsource
      have hwarnings : diagnostics? (.list items) = some ds :=
        diagnostics?_eq_some_iff.mpr ⟨items, rfl, reports_list_iff.mp hitems⟩
      simp [ofValue?, Value.toRecord?, hsource, Value.withDefault?, hlookup, hwarnings]

theorem diagnosticsOfValue?_eq_some_iff {v : Value} {ds : List Diagnostic} :
    diagnosticsOfValue? v = some ds ↔ Reports v ds := by
  cases v with
  | list items =>
    rw [reports_list_iff, diagnosticsOfValue?, AnalysisResult.diagnostics?_eq_some_iff]
    simp
  | record members => exact AnalysisResult.map_warnings_eq_some_iff
  | _ =>
    constructor
    · intro h
      cases h
    · intro h
      cases h

/-! ## Reading -/

theorem parseDiagnostics_eq_ok_iff {input : Text} {v : Value} {ds : List Diagnostic}
    (h : Json.parse input = some v) : parseDiagnostics input = .ok ds ↔ Reports v ds := by
  rw [parseDiagnostics, h, Option.bind_some, ← diagnosticsOfValue?_eq_some_iff]
  cases diagnosticsOfValue? v <;> simp

theorem parseDiagnostics_eq_error_iff {input : Text} {v : Value} {e : Error}
    (h : Json.parse input = some v) :
    parseDiagnostics input = .error e ↔ e = .json ∧ ¬ IsReport v := by
  rw [← exists_reports_iff, parseDiagnostics, h, Option.bind_some]
  simp only [← diagnosticsOfValue?_eq_some_iff]
  cases diagnosticsOfValue? v <;> simp [eq_comm]

/-- What is read from a text that holds a value. -/
structure ReadsReport (input : Text) (v : Value) : Prop where
  ok_iff : ∀ ds, parseDiagnostics input = .ok ds ↔ Reports v ds
  exists_ok_iff : (∃ ds, parseDiagnostics input = .ok ds) ↔ IsReport v
  error_iff : ∀ e, parseDiagnostics input = .error e ↔ e = .json ∧ ¬ IsReport v
  /-- A result is read as a text that holds nothing but its warnings. -/
  eq_warnings : ∀ members items, v = .record members → AnalysisResult.HasSource members →
    members.lookup "warnings" = some (.list items) →
    ∀ alone, Json.parse alone = some (.list items) →
      parseDiagnostics input = parseDiagnostics alone
  /-- One object that is no diagnostic is enough to fail. -/
  error_of_mem : ∀ items item, item ∈ items → ¬ Diagnostic.IsObject item →
    (v = .list items ∨ ∃ members, v = .record members ∧
      members.lookup "warnings" = some (.list items)) →
    parseDiagnostics input = .error .json

theorem parseDiagnostics_congr {input alone : Text} {v w : Value}
    (hinput : Json.parse input = some v) (halone : Json.parse alone = some w)
    (h : ∀ ds, Reports v ds ↔ Reports w ds) : parseDiagnostics input = parseDiagnostics alone := by
  have hvalues : diagnosticsOfValue? v = diagnosticsOfValue? w := by
    apply Option.ext
    intro ds
    rw [diagnosticsOfValue?_eq_some_iff, diagnosticsOfValue?_eq_some_iff, h]
  rw [parseDiagnostics, parseDiagnostics, hinput, halone, Option.bind_some, Option.bind_some,
    hvalues]

theorem reports_record_iff {members : List (String × Value)} {items : List Value}
    (hsource : AnalysisResult.HasSource members)
    (hwarnings : members.lookup "warnings" = some (.list items)) {ds : List Diagnostic} :
    Reports (.record members) ds ↔ Reports (.list items) ds := by
  constructor
  · intro h
    cases h with
    | quiet _ hlookup => simp [hwarnings] at hlookup
    | warnings _ hlookup h =>
      rw [hwarnings, Option.some.injEq, Value.list.injEq] at hlookup
      rwa [hlookup]
  · exact .warnings hsource hwarnings

/-- Whatever JSON a text holds, diagnostics are read from it exactly as its shape says. -/
theorem parseDiagnostics_readsReport {input : Text} {v : Value} (h : Json.parse input = some v) :
    ReadsReport input v where
  ok_iff _ := parseDiagnostics_eq_ok_iff h
  exists_ok_iff := by
    simp only [parseDiagnostics_eq_ok_iff h, exists_reports_iff]
  error_iff _ := parseDiagnostics_eq_error_iff h
  eq_warnings := by
    rintro members items rfl hsource hwarnings alone halone
    exact parseDiagnostics_congr h halone fun ds => reports_record_iff hsource hwarnings
  error_of_mem := by
    intro items item hitem hbad hv
    rw [parseDiagnostics_eq_error_iff h]
    refine ⟨rfl, fun hreport => hbad ?_⟩
    rcases hv with rfl | ⟨members, rfl, hwarnings⟩
    · exact isReport_list_iff.mp hreport item hitem
    · cases hreport with
      | result _ hitems =>
        obtain ⟨_, ⟨⟩, hitems⟩ := hitems _ hwarnings
        exact hitems item hitem

/-- A result whose other members would not do in a diagnostic. -/
def laxInput : Text :=
  "\x7b\"line\":[],\"source\":null,\"warnings\":[".toList
    ++ "\x7b\"line\":null,\"column\":18446744073709551615\x7d,\x7b\"n\":1\x7d]\x7d".toList

def laxItems : List Value :=
  [.record [("column", .ofNat 18446744073709551615), ("line", .null)],
    .record [("n", .ofNat 1)]]

def laxValue : Value :=
  .record [("line", .list []), ("source", .null), ("warnings", .list laxItems)]

theorem parseDiagnostics_readsReport_laxInput :
    Json.parse laxInput = some laxValue ∧ ReadsReport laxInput laxValue ∧
      parseDiagnostics laxInput =
        .ok [{ column := some 18446744073709551615 }, { extra := [("n", .ofNat 1)] }] := by
  have hparse : Json.parse laxInput = some laxValue := by
    rfl
  exact ⟨hparse, parseDiagnostics_readsReport hparse, rfl⟩

/-- One column that is too great by one, and a rule that is null. -/
example :
    parseDiagnostics "[\x7b\x7d,\x7b\"column\":18446744073709551616\x7d]".toList =
        .error .json ∧
      parseDiagnostics "\x7b\"warnings\":[\x7b\"rule\":null\x7d]\x7d".toList = .error .json :=
  ⟨rfl, rfl⟩

end Excerpt
