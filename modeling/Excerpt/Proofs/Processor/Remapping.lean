import Excerpt.Processor
import Mathlib.Data.List.Forall2

/-! # Diagnostics one by one

Every diagnostic of a document is moved or dropped on its own. Moving it changes its position and
nothing else, and whether diagnostics can be moved at all depends on the document alone. -/

namespace Excerpt

/-! ## One diagnostic -/

/-- A diagnostic and the same one at another position. It has a line and a column when it had them
before, and without a line its column stays. -/
structure Diagnostic.Relocates (d moved : Diagnostic) : Prop where
  rule_eq : moved.rule = d.rule
  severity_eq : moved.severity = d.severity
  text_eq : moved.text = d.text
  extra_eq : moved.extra = d.extra
  line_isSome : moved.line.isSome = d.line.isSome
  column_isSome : moved.column.isSome = d.column.isSome
  column_eq : d.line = none → moved.column = d.column

theorem Diagnostic.relocates_remap (map : LineMap) (d : Diagnostic) :
    d.Relocates (d.remap map) := by
  unfold remap
  split
  · exact ⟨rfl, rfl, rfl, rfl, rfl, rfl, fun _ => rfl⟩
  · rename_i origin horigin
    obtain ⟨line, hline, -⟩ := Option.bind_eq_some_iff.mp horigin
    refine ⟨rfl, rfl, rfl, rfl, ?_, ?_, ?_⟩
    · simp [hline]
    · simp
    · simp [hline]

namespace Processor

variable {p : Processor} {document : DocumentId}

/-! ## The three kinds of documents -/

theorem remap_of_rejects (h : p.accepts document = false) (diagnostics : List Diagnostic) :
    p.remap diagnostics document = .ok diagnostics := by
  simp [remap, h]

theorem remap_of_unknown (h : p.accepts document) (hmap : p.lineMap? document = none)
    (diagnostics : List Diagnostic) :
    p.remap diagnostics document = .error (.unknownDocument document) := by
  simp [remap, h, hmap]

theorem remap_of_mapped {map : LineMap} (h : p.accepts document)
    (hmap : p.lineMap? document = some map) (diagnostics : List Diagnostic) :
    p.remap diagnostics document =
      .ok ((diagnostics.filter fun d => d.rule ∉ p.config.ignoredRules).map
        (Diagnostic.remap map)) := by
  simp [remap, h, hmap, Config.ignoresRule]

/-! ## Lists of diagnostics -/

theorem remap_append (before after : List Diagnostic) :
    p.remap (before ++ after) document = do
      let movedBefore ← p.remap before document
      let movedAfter ← p.remap after document
      return movedBefore ++ movedAfter := by
  cases haccepts : p.accepts document with
  | false =>
    simp only [remap_of_rejects haccepts]
    rfl
  | true =>
    cases hmap : p.lineMap? document with
    | none =>
      simp only [remap_of_unknown haccepts hmap]
      rfl
    | some map =>
      simp only [remap_of_mapped haccepts hmap, List.filter_append, List.map_append]
      rfl

theorem forall₂_relocates_of_remap {diagnostics moved : List Diagnostic}
    (haccepts : p.accepts document) (h : p.remap diagnostics document = .ok moved) :
    List.Forall₂ Diagnostic.Relocates
      (diagnostics.filter fun d => d.rule ∉ p.config.ignoredRules) moved := by
  cases hmap : p.lineMap? document with
  | none => simp [remap_of_unknown haccepts hmap] at h
  | some map =>
    rw [remap_of_mapped haccepts hmap, Except.ok.injEq] at h
    rw [← h, List.forall₂_map_right_iff, List.forall₂_same]
    exact fun d _ => d.relocates_remap map

theorem remap_eq_error_iff (diagnostics : List Diagnostic) (e : Error) :
    p.remap diagnostics document = .error e ↔
      e = .unknownDocument document ∧ p.accepts document ∧ p.lineMap? document = none := by
  cases haccepts : p.accepts document with
  | false => simp [remap_of_rejects haccepts]
  | true =>
    cases hmap : p.lineMap? document with
    | none => simp [remap_of_unknown haccepts hmap, eq_comm]
    | some map => simp [remap_of_mapped haccepts hmap]

/-- What can be said of all lists of diagnostics of a document. They are moved one by one. For a
document that the filter accepts, those of ignored rules are dropped and the others change at most
their positions, in their order; for any other document nothing changes. They cannot be moved
exactly when the document is accepted and was never extracted. -/
structure RemapsEach (p : Processor) (document : DocumentId) : Prop where
  append_eq : ∀ before after, p.remap (before ++ after) document = do
    let movedBefore ← p.remap before document
    let movedAfter ← p.remap after document
    return movedBefore ++ movedAfter
  accepted : p.accepts document → ∀ diagnostics moved, p.remap diagnostics document = .ok moved →
    List.Forall₂ Diagnostic.Relocates
      (diagnostics.filter fun d => d.rule ∉ p.config.ignoredRules) moved
  rejected : p.accepts document = false → ∀ diagnostics,
    p.remap diagnostics document = .ok diagnostics
  error_iff : ∀ diagnostics e, p.remap diagnostics document = .error e ↔
    e = .unknownDocument document ∧ p.accepts document ∧ p.lineMap? document = none

/-- Whatever a processor has extracted, it moves the diagnostics of every document one by one. -/
theorem remap_remapsEach (p : Processor) (document : DocumentId) : p.RemapsEach document where
  append_eq := remap_append
  accepted h _ _ := forall₂_relocates_of_remap h
  rejected := remap_of_rejects
  error_iff := remap_eq_error_iff

/-- A document with a map, one that the filter rejects, and one that was never extracted. -/
example :
    let p : Processor := ⟨{ ignoredRules := ["order"] }, ⟨.empty, []⟩, .suffixes [".vue"],
      ⟨[(⟨"a.vue"⟩, ⟨[⟨3, 2⟩]⟩)]⟩⟩
    p.remap [{ line := some 1, column := some 1 }, { rule := "order" }] ⟨"a.vue"⟩ =
        .ok [{ line := some 3, column := some 3 }] ∧
      p.remap [{ rule := "order" }] ⟨"a.md"⟩ = .ok [{ rule := "order" }] ∧
      p.remap [] ⟨"b.vue"⟩ = .error (.unknownDocument ⟨"b.vue"⟩) :=
  ⟨rfl, rfl, rfl⟩

end Processor

end Excerpt
