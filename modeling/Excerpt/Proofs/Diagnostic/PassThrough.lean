import Excerpt.Processor
import Excerpt.Proofs.Diagnostic.RoundTrip
import Excerpt.Proofs.Except
import Excerpt.Proofs.Value.Objects
import Mathlib.Data.List.Basic

/-! # Results that pass through

A result of an analyser is read, its warnings are moved, and it is written again. What is written
is the object that was read, but for members that say nothing and for the positions. -/

namespace Excerpt

/-! ## Objects as they are written again -/

namespace Diagnostic

/-- The value of a member when it is written again: a position that is null and a text that is empty
are left out. -/
def tidyMember (key : String) : Value → Option Value
  | .null => if key = "line" ∨ key = "column" then none else some .null
  | .text s =>
    if s.isEmpty ∧ (key = "rule" ∨ key = "severity" ∨ key = "text") then none else some (.text s)
  | v => some v

/-- The object of a diagnostic without the members that say nothing. -/
def tidy : Value → Value
  | .record members => .record (Value.editMembers tidyMember members)
  | v => v

/-- The rule that an object names. One that names none has the empty rule. -/
def ruleOf : Value → String
  | .record members => ((members.lookup "rule").bind Value.toText?).getD ""
  | _ => ""

def isPosition (key : String) : Bool :=
  key == "line" || key == "column"

/-- The object without its position. -/
def withoutPosition : Value → Value
  | .record members => .record (members.filter fun m => !isPosition m.1)
  | v => v

end Diagnostic

namespace AnalysisResult

/-- The value of a member when it is written again: a source that is null is left out, and the
warnings are tidied one by one. -/
def tidyMember (key : String) : Value → Option Value
  | .null => if key = "source" then none else some .null
  | .list items =>
    if key = "warnings" then some (.list (items.map Diagnostic.tidy)) else some (.list items)
  | v => some v

/-- The object of a result as it is written again. There are always warnings in it. -/
def tidy : Value → Value
  | .record members =>
    .record (Value.addMissing "warnings" (.list []) (Value.editMembers tidyMember members))
  | v => v

/-- The objects of the warnings in a result. -/
def warningsOf : Value → List Value
  | .record members => ((members.lookup "warnings").bind Value.toList?).getD []
  | _ => []

/-- The object with other warnings. -/
def withWarnings (items : List Value) : Value → Value
  | .record members => .record (Value.insertMember "warnings" (.list items) members)
  | v => v

end AnalysisResult

/-- Whether the diagnostics of a rule stay when those of a document are moved. -/
def Processor.keepsRule (p : Processor) (document : DocumentId) (rule : String) : Bool :=
  !(p.accepts document && p.config.ignoresRule rule)

/-! ## Fields that were read -/

namespace Value

theorem lookup_extraMembers (reserved : List String) (members : List (String × Value))
    (key : String) :
    (extraMembers reserved members).lookup key =
      if key ∈ reserved then none else members.lookup key := by
  rw [extraMembers, lookup_filter_key fun key => !reserved.contains key]
  by_cases h : key ∈ reserved <;> simp [h]

theorem lookup_eq_none_of_unreserved {reserved : List String} {extra : List (String × Value)}
    (h : ∀ m ∈ extra, m.1 ∉ reserved) {key : String} (hkey : key ∈ reserved) :
    extra.lookup key = none := by
  apply lookup_eq_none_of_forall_ne
  intro m hm heq
  exact h m hm (heq ▸ hkey)

/-- A member that may be null is written again with the value that was read, or left out. -/
theorem GivesOptional.bind_lookup {α : Type} {encode : α → Value} {edit : Value → Option Value}
    {key : String} {members : List (String × Value)} {o : Option α}
    (h : GivesOptional encode key members o) (hnull : edit .null = none)
    (hedit : ∀ a, edit (encode a) = some (encode a)) :
    (members.lookup key).bind edit = o.map encode := by
  rcases h with hlookup | ⟨hlookup, rfl⟩
  · rw [hlookup]
    cases o with
    | none => rfl
    | some a => exact hedit a
  · rw [hlookup]
    exact hnull

theorem filter_optionalMember {α : Type} {encode : α → Value} {key : String} {o : Option α}
    {q : String → Bool} (h : q key = false) :
    (optionalMember encode key o).filter (fun m => q m.1) = [] := by
  cases o <;> simp [optionalMember, h]

end Value

/-! ## Diagnostics -/

namespace Diagnostic

theorem rule_eq_ruleOf {v : Value} {d : Diagnostic} (h : ofValue? v = some d) :
    d.rule = ruleOf v := by
  obtain ⟨members, rfl, hread⟩ := exists_readFrom h
  rcases Value.withDefault?_toText?_eq_some_iff.mp hread.rule with hlookup | ⟨hlookup, hempty⟩
  · simp [ruleOf, hlookup, Value.toText?]
  · simp [ruleOf, hlookup, hempty]

/-- A text that was read is written again unless it is empty. -/
theorem bind_lookup_tidyMember {key s : String} {members : List (String × Value)}
    (hkey : key = "rule" ∨ key = "severity" ∨ key = "text")
    (h : Value.withDefault? Value.toText? "" key members = some s) :
    (members.lookup key).bind (tidyMember key) = if s.isEmpty then none else some (.text s) := by
  rcases Value.withDefault?_toText?_eq_some_iff.mp h with hlookup | ⟨hlookup, rfl⟩
  · rw [hlookup, Option.bind_some, tidyMember]
    simp only [hkey, and_true]
  · rw [hlookup]
    rfl

theorem bind_lookup_tidyMember_position {key : String} {members : List (String × Value)}
    {o : Option Nat} (hkey : key = "line" ∨ key = "column")
    (h : Value.optional? Value.toNat? key members = some o) :
    (members.lookup key).bind (tidyMember key) = o.map .ofNat := by
  apply (Value.optional?_toNat?_eq_some_iff.mp h).1.bind_lookup
  · exact if_pos hkey
  · intro n
    rfl

theorem tidyMember_of_not_mem {key : String} (h : key ∉ reserved) (v : Value) :
    tidyMember key v = some v := by
  simp only [reserved, List.mem_cons, List.not_mem_nil, or_false, not_or] at h
  obtain ⟨hline, hcolumn, hrule, hseverity, htext⟩ := h
  cases v <;> simp [tidyMember, hline, hcolumn, hrule, hseverity, htext]

theorem WellFormed.sortRecords_toValue {depth : Nat} {d : Diagnostic} (h : d.WellFormed depth) :
    d.toValue.sortRecords = .record (Value.sortMembers (d.fields ++ d.extra)) := by
  have hmembers : ∀ m ∈ d.fields ++ d.extra, (m.1, m.2.sortRecords) = m := by
    intro m hm
    rcases List.mem_append.mp hm with hm | hm
    · rcases (cases_of_mem_fields hm).2 with ⟨n, -, hvalue⟩ | ⟨s, hvalue⟩
      · rw [Prod.ext_iff, hvalue]
        exact ⟨rfl, rfl⟩
      · rw [Prod.ext_iff, hvalue]
        exact ⟨rfl, rfl⟩
    · rw [(h.normal m hm).sortRecords_eq]
  rw [toValue_eq, Value.sortRecords_record, List.map_congr_left hmembers, List.map_id']

/-- A key that is not reserved is found among the extra members. -/
theorem WellFormed.lookup_sortMembers_of_not_mem {depth : Nat} {d : Diagnostic}
    (h : d.WellFormed depth) {key : String} (hkey : key ∉ reserved) :
    (Value.sortMembers (d.fields ++ d.extra)).lookup key = d.extra.lookup key := by
  have hfields : (Value.sortMembers d.fields).lookup key = none := by
    apply Value.lookup_eq_none_of_forall_ne
    intro m hm heq
    have hmem := (cases_of_mem_fields (Value.mem_of_mem_sortMembers hm)).1
    exact hkey (heq ▸ hmem)
  rw [Value.lookup_sortMembers_append, hfields, h.sorted.sortMembers_eq, Option.or_none]

/-- A diagnostic that was read is written as the object it was read from, without the members that
say nothing. -/
theorem sortRecords_toValue_eq_tidy {depth : Nat} {v : Value} {d : Diagnostic}
    (hv : v.Normal (depth + 1)) (h : ofValue? v = some d) : d.toValue.sortRecords = tidy v := by
  have hwell := wellFormed_of_ofValue? hv h
  obtain ⟨members, rfl, hread⟩ := exists_readFrom h
  cases hv with
  | record hsorted _ =>
    rw [hwell.sortRecords_toValue, tidy]
    congr 1
    apply Value.Sorted.ext (Value.sorted_sortMembers _) (hsorted.editMembers _)
    intro key
    rw [hsorted.lookup_editMembers]
    by_cases hkey : key ∈ reserved
    · rw [hwell.lookup_sortMembers hkey]
      simp only [reserved, List.mem_cons, List.not_mem_nil, or_false] at hkey
      rcases hkey with rfl | rfl | rfl | rfl | rfl
      · exact (bind_lookup_tidyMember_position (.inl rfl) hread.line).symm
      · exact (bind_lookup_tidyMember_position (.inr rfl) hread.column).symm
      · exact (bind_lookup_tidyMember (.inl rfl) hread.rule).symm
      · exact (bind_lookup_tidyMember (.inr (.inl rfl)) hread.severity).symm
      · exact (bind_lookup_tidyMember (.inr (.inr rfl)) hread.text).symm
    · rw [hwell.lookup_sortMembers_of_not_mem hkey, hread.extra, Value.lookup_extraMembers,
        if_neg hkey, funext (tidyMember_of_not_mem hkey), Option.bind_fun_some]

/-- Without its position a diagnostic is written in the same way wherever it stands. -/
theorem withoutPosition_sortRecords_toValue (d : Diagnostic) (line column : Option Nat) :
    withoutPosition { d with line := line, column := column }.toValue.sortRecords =
      withoutPosition d.toValue.sortRecords := by
  have hsorted : ∀ e : Diagnostic, withoutPosition e.toValue.sortRecords =
      .record (Value.sortMembers (((e.fields ++ e.extra).filter fun m => !isPosition m.1).map
        fun m => (m.1, m.2.sortRecords))) := by
    intro e
    rw [toValue_eq, Value.sortRecords_record, withoutPosition,
      Value.filter_sortMembers fun key => !isPosition key, List.filter_map]
    rfl
  have hline : ∀ o : Option Nat,
      (Value.optionalMember .ofNat "line" o).filter (fun m => !isPosition m.1) = [] :=
    fun o => Value.filter_optionalMember (q := fun key => !isPosition key) rfl
  have hcolumn : ∀ o : Option Nat,
      (Value.optionalMember .ofNat "column" o).filter (fun m => !isPosition m.1) = [] :=
    fun o => Value.filter_optionalMember (q := fun key => !isPosition key) rfl
  rw [hsorted, hsorted]
  simp only [fields, List.filter_append, hline, hcolumn]

theorem withoutPosition_remap (map : LineMap) (d : Diagnostic) :
    withoutPosition (d.remap map).toValue.sortRecords = withoutPosition d.toValue.sortRecords := by
  unfold remap
  split
  · rfl
  · apply withoutPosition_sortRecords_toValue

end Diagnostic

/-! ## Results -/

namespace AnalysisResult

/-- The warnings are read one by one from their objects, and tidied one by one. -/
theorem ReadFrom.warningsOf {members : List (String × Value)} {r : AnalysisResult}
    (h : ReadFrom members r) :
    (AnalysisResult.warningsOf (.record members)).mapM Diagnostic.ofValue? = some r.warnings ∧
      ((members.lookup "warnings").bind (tidyMember "warnings")).or (some (.list [])) =
        some (.list ((AnalysisResult.warningsOf (.record members)).map Diagnostic.tidy)) := by
  have hwarnings := h.warnings
  unfold Value.withDefault? at hwarnings
  split at hwarnings
  · rename_i hlookup
    rw [← Option.some.inj hwarnings, AnalysisResult.warningsOf, hlookup]
    exact ⟨rfl, rfl⟩
  · rename_i v hlookup
    obtain ⟨items, hitems, hread⟩ := Option.bind_eq_some_iff.mp hwarnings
    obtain rfl := Value.eq_list_of_toList? hitems
    rw [AnalysisResult.warningsOf, hlookup]
    exact ⟨hread, rfl⟩

theorem normal_of_mem_warningsOf {depth : Nat} {v : Value} (h : v.Normal depth) :
    ∀ w ∈ warningsOf v, w.Normal (depth + 1) := by
  cases h with
  | @record depth members _ hvalues =>
    intro w hw
    cases hlookup : members.lookup "warnings" with
    | none => simp [warningsOf, hlookup] at hw
    | some found =>
      have hfound := hvalues _ (Value.mem_of_lookup_eq_some hlookup)
      cases hfound with
      | list hitems =>
        simp only [warningsOf, hlookup, Option.bind_some, Value.toList?, Option.getD_some] at hw
        exact (hitems w hw).mono (by omega)
      | _ => simp [warningsOf, hlookup, Value.toList?] at hw
  | _ => simp [warningsOf]

theorem tidyMember_of_not_mem {key : String} (h : key ∉ reserved) (v : Value) :
    tidyMember key v = some v := by
  simp only [reserved, List.mem_cons, List.not_mem_nil, or_false, not_or] at h
  cases v <;> simp [tidyMember, h]

/-- What holds of the extra members of a result that was read. -/
structure WellFormed (depth : Nat) (r : AnalysisResult) : Prop where
  sorted : Value.Sorted r.extra
  unreserved : ∀ m ∈ r.extra, m.1 ∉ reserved
  normal : ∀ m ∈ r.extra, m.2.Normal depth

theorem ReadFrom.wellFormed {depth : Nat} {members : List (String × Value)} {r : AnalysisResult}
    (h : ReadFrom members r) (hsorted : Value.Sorted members)
    (hvalues : ∀ m ∈ members, m.2.Normal depth) : r.WellFormed depth := by
  have hextra : ∀ m ∈ r.extra, m ∈ members ∧ m.1 ∉ reserved := by
    intro m hm
    rw [h.extra] at hm
    simpa using List.mem_filter.mp hm
  refine ⟨?_, fun m hm => (hextra m hm).2, fun m hm => hvalues m (hextra m hm).1⟩
  rw [h.extra]
  exact hsorted.filter _

/-- The sorted members of a result, with any objects for its warnings. -/
def sortedMembers (r : AnalysisResult) (items : List Value) : List (String × Value) :=
  Value.sortMembers (Value.optionalMember .text "source" r.source ++ [("warnings", .list items)]
    ++ r.extra)

theorem sorted_sortedMembers (r : AnalysisResult) (items : List Value) :
    Value.Sorted (r.sortedMembers items) :=
  Value.sorted_sortMembers _

theorem WellFormed.lookup_sortedMembers {depth : Nat} {r : AnalysisResult} (h : r.WellFormed depth)
    (items : List Value) (key : String) :
    (r.sortedMembers items).lookup key =
      if key = "source" then r.source.map .text
      else if key = "warnings" then some (.list items)
      else r.extra.lookup key := by
  have hsource : r.extra.lookup "source" = none :=
    Value.lookup_eq_none_of_unreserved h.unreserved (by decide)
  have hwarnings : r.extra.lookup "warnings" = none :=
    Value.lookup_eq_none_of_unreserved h.unreserved (by decide)
  have hitems : (Value.sortMembers [("warnings", .list items)]).lookup key =
      if key = "warnings" then some (.list items) else none :=
    Value.lookup_cons_eq_ite ("warnings", .list items) [] key
  rw [sortedMembers, Value.lookup_sortMembers_append, Value.lookup_sortMembers_append, hitems,
    Value.lookup_sortMembers_optionalMember, h.sorted.sortMembers_eq]
  by_cases hkey : key = "source"
  · simp [hkey, hsource]
  · by_cases hkey' : key = "warnings"
    · simp [hkey', hwarnings]
    · simp [hkey, hkey']

theorem WellFormed.sortRecords_toValue {depth : Nat} {r : AnalysisResult} (h : r.WellFormed depth)
    (warnings : List Diagnostic) :
    { r with warnings := warnings }.toValue.sortRecords =
      .record (r.sortedMembers (warnings.map fun d => d.toValue.sortRecords)) := by
  have hextra : r.extra.map (fun m => (m.1, m.2.sortRecords)) = r.extra := by
    rw [List.map_congr_left fun m hm => by rw [(h.normal m hm).sortRecords_eq], List.map_id']
  have hsource : (Value.optionalMember .text "source" r.source).map
      (fun m => (m.1, m.2.sortRecords)) = Value.optionalMember .text "source" r.source := by
    cases r.source <;> rfl
  rw [toValue, Value.sortRecords_record, List.map_append, List.map_append, hextra, hsource,
    List.map_singleton, Value.sortRecords_list, List.map_map, sortedMembers]
  rfl

theorem WellFormed.withWarnings_sortedMembers {depth : Nat} {r : AnalysisResult}
    (h : r.WellFormed depth) (old items : List Value) :
    withWarnings items (.record (r.sortedMembers old)) = .record (r.sortedMembers items) := by
  rw [withWarnings]
  congr 1
  apply Value.Sorted.ext
  · exact (r.sorted_sortedMembers old).insertMember _ _
  · exact r.sorted_sortedMembers items
  · intro key
    rw [Value.lookup_insertMember, h.lookup_sortedMembers, h.lookup_sortedMembers]
    by_cases hkey : key = "warnings" <;> simp [hkey]

/-- A result that was read is written as the object it was read from, tidied. -/
theorem sortRecords_toValue_eq_tidy {depth : Nat} {v : Value} {r : AnalysisResult}
    (hv : v.Normal depth) (h : ofValue? v = some r) : r.toValue.sortRecords = tidy v := by
  have hnormal := normal_of_mem_warningsOf hv
  obtain ⟨members, rfl, hread⟩ := exists_readFrom h
  obtain ⟨hwarnings, htidied⟩ := hread.warningsOf
  have hitems : r.warnings.map (fun d => d.toValue.sortRecords) =
      (warningsOf (.record members)).map Diagnostic.tidy := by
    simpa using map_filter_of_mapM (fun _ => true) (fun _ => true) hwarnings (fun _ _ _ _ => rfl)
      fun w hw d => Diagnostic.sortRecords_toValue_eq_tidy (hnormal w hw)
  cases hv with
  | record hsorted hvalues =>
    have hwell := hread.wellFormed hsorted hvalues
    rw [hwell.sortRecords_toValue r.warnings, tidy]
    congr 1
    apply Value.Sorted.ext (r.sorted_sortedMembers _) ((hsorted.editMembers _).addMissing _ _)
    intro key
    rw [hwell.lookup_sortedMembers, Value.lookup_addMissing, hsorted.lookup_editMembers, hitems]
    by_cases hsource : key = "source"
    · subst hsource
      have htext : (members.lookup "source").bind (tidyMember "source") = r.source.map .text :=
        (Value.optional?_toText?_eq_some_iff.mp hread.source).bind_lookup rfl fun _ => rfl
      simp [htext]
    · by_cases hkey : key = "warnings"
      · subst hkey
        simpa using htidied.symm
      · have hkey' : key ∉ reserved := by simp [reserved, hsource, hkey]
        rw [if_neg hsource, if_neg hkey, if_neg hkey, Option.or_none, hread.extra,
          Value.lookup_extraMembers, if_neg hkey', funext (tidyMember_of_not_mem hkey'),
          Option.bind_fun_some]

end AnalysisResult

/-! ## Moved warnings -/

namespace Processor

/-- Whatever document it is for, moving diagnostics drops those of rules that are not kept and
changes nothing but the positions of the others. -/
theorem exists_of_remap {p : Processor} {diagnostics moved : List Diagnostic}
    {document : DocumentId} (h : p.remap diagnostics document = .ok moved) :
    ∃ move : Diagnostic → Diagnostic,
      moved = (diagnostics.filter fun d => p.keepsRule document d.rule).map move ∧
      ∀ d, Diagnostic.withoutPosition (move d).toValue.sortRecords =
        Diagnostic.withoutPosition d.toValue.sortRecords := by
  unfold remap at h
  split at h
  · rename_i haccepts
    split at h
    · simp at h
    · rename_i map hmap
      refine ⟨Diagnostic.remap map, ?_, Diagnostic.withoutPosition_remap map⟩
      simp only [keepsRule, haccepts, Bool.true_and]
      exact (Except.ok.inj h).symm
  · rename_i haccepts
    have hkeeps : ∀ d ∈ diagnostics, p.keepsRule document d.rule := by
      simp [keepsRule, haccepts]
    refine ⟨id, ?_, fun d => rfl⟩
    rw [List.filter_eq_self.mpr hkeeps, List.map_id]
    exact (Except.ok.inj h).symm

theorem exists_of_remapResult {p : Processor} {r moved : AnalysisResult} {document : DocumentId}
    (h : p.remapResult r document = .ok moved) :
    ∃ warnings, p.remap r.warnings document = .ok warnings ∧
      moved = { r with warnings := warnings } := by
  obtain ⟨warnings, hremap, hmoved⟩ := exists_of_bind_eq_ok h
  exact ⟨warnings, hremap, (Except.ok.inj hmoved).symm⟩

end Processor

namespace AnalysisResult

/-- What becomes of the object of a result. Read and written again it is tidied. No key that has a
field gets among the extra members. When the warnings are moved, those of rules that are kept stay
in their order with all but their positions, and every other member stays. -/
structure PassesThrough (v : Value) (r : AnalysisResult) : Prop where
  written_eq : r.toValue.sortRecords = tidy v
  extra_unreserved : ∀ m ∈ r.extra, m.1 ∉ reserved
  warnings_unreserved : ∀ d ∈ r.warnings, ∀ m ∈ d.extra, m.1 ∉ Diagnostic.reserved
  remapped : ∀ (p : Processor) (document : DocumentId) (moved : AnalysisResult),
    p.remapResult r document = .ok moved →
      ∃ items, moved.toValue.sortRecords = withWarnings items (tidy v) ∧
        items.map Diagnostic.withoutPosition =
          ((warningsOf v).filter fun w => p.keepsRule document (Diagnostic.ruleOf w)).map
            fun w => Diagnostic.withoutPosition (Diagnostic.tidy w)

/-- Every result that can be read passes through, whatever processor moves its warnings. -/
theorem passesThrough_of_ofValue? {depth : Nat} {v : Value} {r : AnalysisResult}
    (hv : v.Normal depth) (h : ofValue? v = some r) : PassesThrough v r := by
  have hwritten := sortRecords_toValue_eq_tidy hv h
  have hnormal := normal_of_mem_warningsOf hv
  obtain ⟨members, rfl, hread⟩ := exists_readFrom h
  have hwarnings := hread.warningsOf.1
  cases hv with
  | record hsorted hvalues =>
    have hwell := hread.wellFormed hsorted hvalues
    refine ⟨hwritten, hwell.unreserved, ?_, ?_⟩
    · intro d hd
      obtain ⟨w, hw, hdiagnostic⟩ := exists_of_mapM hwarnings d hd
      exact (Diagnostic.wellFormed_of_ofValue? (hnormal w hw) hdiagnostic).unreserved
    · intro p document moved hmoved
      obtain ⟨warnings, hremap, rfl⟩ := Processor.exists_of_remapResult hmoved
      obtain ⟨move, hmoves, hmove⟩ := Processor.exists_of_remap hremap
      refine ⟨warnings.map fun d => d.toValue.sortRecords, ?_, ?_⟩
      · rw [← hwritten, hwell.sortRecords_toValue r.warnings, hwell.withWarnings_sortedMembers]
        exact hwell.sortRecords_toValue warnings
      · rw [hmoves, List.map_map, List.map_map]
        refine map_filter_of_mapM _ _ hwarnings ?_ ?_
        · intro w hw d hd
          rw [Diagnostic.rule_eq_ruleOf hd]
        · intro w hw d hd
          rw [← Diagnostic.sortRecords_toValue_eq_tidy (hnormal w hw) hd]
          exact hmove d

/-- A result with a null source. Of its warnings one has an empty text, and one no position. -/
def quietInput : Text :=
  "\x7b\"source\":null,\"warnings\":[".toList
    ++ "\x7b\"text\":\"\",\"line\":1\x7d,\x7b\"rule\":\"r\"\x7d],\"x\":0\x7d".toList

def quietValue : Value :=
  .record [("source", .null), ("warnings", .list [
    .record [("line", .ofNat 1), ("text", .text "")], .record [("rule", .text "r")]]),
    ("x", .ofNat 0)]

def quietResult : AnalysisResult where
  warnings := [{ line := some 1 }, { rule := "r" }]
  extra := [("x", .ofNat 0)]

/-- A processor that ignores a rule and has extracted a document. -/
def quietProcessor : Processor :=
  ⟨{ ignoredRules := ["r"] }, ⟨.empty, []⟩, .all, ⟨[(⟨"page.html"⟩, ⟨[⟨3, 2⟩]⟩)]⟩⟩

theorem passesThrough_quietResult :
    Json.parse quietInput = some quietValue ∧ quietValue.Normal Json.maxDepth ∧
      ofValue? quietValue = some quietResult ∧ PassesThrough quietValue quietResult ∧
      ∃ moved, quietProcessor.remapResult quietResult ⟨"page.html"⟩ = .ok moved ∧
        moved.toValue = .record [("warnings", .list [.record [("line", .ofNat 3)]]),
          ("x", .ofNat 0)] := by
  have hparse : Json.parse quietInput = some quietValue := by
    rfl
  have hnormal : quietValue.Normal Json.maxDepth := Json.normal_of_parse hparse
  have hread : ofValue? quietValue = some quietResult := by
    rfl
  exact ⟨hparse, hnormal, hread, passesThrough_of_ofValue? hnormal hread, _, rfl, rfl⟩

end AnalysisResult

end Excerpt
