import Excerpt.Proofs.Diagnostic.Fields
import Excerpt.Proofs.Json.ReadBack
import Excerpt.Proofs.Traversal
import Excerpt.Report

/-! # Diagnostics that read back

A JSON report of diagnostics that were read is read as the same diagnostics. -/

namespace Excerpt

/-! ## Fields -/

namespace Value

theorem lookup_sortMembers_append (front back : List (String × Value)) (key : String) :
    (sortMembers (front ++ back)).lookup key =
      ((sortMembers back).lookup key).or ((sortMembers front).lookup key) := by
  simp only [lookup_sortMembers, List.reverse_append, List.lookup_append]

theorem lookup_sortMembers_optionalMember {α : Type} (encode : α → Value) (key k : String)
    (v : Option α) :
    (sortMembers (optionalMember encode key v)).lookup k =
      if k = key then v.map encode else none := by
  cases v with
  | none => exact (ite_self none).symm
  | some a => exact lookup_cons_eq_ite (key, encode a) [] k

theorem lookup_sortMembers_textMember (key k : String) (s : String) :
    (sortMembers (textMember key s)).lookup k =
      if k = key then if s.isEmpty then none else some (.text s) else none := by
  unfold textMember
  split
  · exact (ite_self none).symm
  · exact lookup_cons_eq_ite (key, .text s) [] k

theorem exists_of_mem_optionalMember {α : Type} {encode : α → Value} {key : String} {v : Option α}
    {m : String × Value} (h : m ∈ optionalMember encode key v) : ∃ a ∈ v, m = (key, encode a) := by
  cases v with
  | none => simp [optionalMember] at h
  | some a => exact ⟨a, rfl, List.mem_singleton.mp h⟩

theorem eq_of_mem_textMember {key s : String} {m : String × Value} (h : m ∈ textMember key s) :
    m = (key, .text s) := by
  unfold textMember at h
  split at h
  · simp at h
  · exact List.mem_singleton.mp h

/-- A text that is left out when it is empty is read as what it was written for. -/
theorem withDefault?_of_lookup {key s : String} {members : List (String × Value)}
    (h : members.lookup key = if s.isEmpty then none else some (.text s)) :
    withDefault? toText? "" key members = some s := by
  rw [withDefault?_toText?_eq_some_iff, GivesText, h]
  by_cases hs : s.isEmpty
  · rw [if_pos hs]
    exact .inr ⟨rfl, String.isEmpty_iff.mp hs⟩
  · rw [if_neg hs]
    exact .inl rfl

end Value

namespace Diagnostic

/-- What holds of a diagnostic that was read: its position fits a word, and the extra members are
sorted, have no field and do not nest deeper than `depth`. -/
structure WellFormed (depth : Nat) (d : Diagnostic) : Prop where
  line_le : ∀ n ∈ d.line, n ≤ maxWord
  column_le : ∀ n ∈ d.column, n ≤ maxWord
  sorted : Value.Sorted d.extra
  unreserved : ∀ m ∈ d.extra, m.1 ∉ reserved
  normal : ∀ m ∈ d.extra, m.2.Normal depth

theorem WellFormed.mono {depth depth' : Nat} {d : Diagnostic} (h : d.WellFormed depth)
    (hle : depth ≤ depth') : d.WellFormed depth' :=
  { h with normal := fun m hm => (h.normal m hm).mono hle }

theorem wellFormed_of_ofValue? {depth : Nat} {v : Value} {d : Diagnostic}
    (hv : v.Normal (depth + 1)) (h : ofValue? v = some d) : d.WellFormed depth := by
  obtain ⟨members, rfl, hread⟩ := exists_readFrom h
  have hextra : ∀ m ∈ d.extra, m ∈ members ∧ m.1 ∉ reserved := by
    intro m hm
    rw [hread.extra] at hm
    simpa using List.mem_filter.mp hm
  cases hv with
  | record hsorted hvalues =>
    exact {
      line_le := (Value.optional?_toNat?_eq_some_iff.mp hread.line).2
      column_le := (Value.optional?_toNat?_eq_some_iff.mp hread.column).2
      sorted := by
        rw [hread.extra]
        exact hsorted.filter _
      unreserved := fun m hm => (hextra m hm).2
      normal := fun m hm => hvalues m (hextra m hm).1 }

/-- The members of the fields as they are written. -/
def fields (d : Diagnostic) : List (String × Value) :=
  Value.optionalMember .ofNat "line" d.line
    ++ Value.optionalMember .ofNat "column" d.column
    ++ Value.textMember "rule" d.rule
    ++ Value.textMember "severity" d.severity
    ++ Value.textMember "text" d.text

theorem toValue_eq (d : Diagnostic) : d.toValue = .record (d.fields ++ d.extra) :=
  rfl

theorem cases_of_mem_fields {d : Diagnostic} {m : String × Value} (h : m ∈ d.fields) :
    m.1 ∈ reserved ∧
      ((∃ n, (n ∈ d.line ∨ n ∈ d.column) ∧ m.2 = .ofNat n) ∨ ∃ s, m.2 = .text s) := by
  simp only [fields, List.mem_append] at h
  rcases h with (((h | h) | h) | h) | h
  · obtain ⟨n, hn, rfl⟩ := Value.exists_of_mem_optionalMember h
    exact ⟨by simp [reserved], .inl ⟨n, .inl hn, rfl⟩⟩
  · obtain ⟨n, hn, rfl⟩ := Value.exists_of_mem_optionalMember h
    exact ⟨by simp [reserved], .inl ⟨n, .inr hn, rfl⟩⟩
  · obtain rfl := Value.eq_of_mem_textMember h
    exact ⟨by simp [reserved], .inr ⟨d.rule, rfl⟩⟩
  · obtain rfl := Value.eq_of_mem_textMember h
    exact ⟨by simp [reserved], .inr ⟨d.severity, rfl⟩⟩
  · obtain rfl := Value.eq_of_mem_textMember h
    exact ⟨by simp [reserved], .inr ⟨d.text, rfl⟩⟩

theorem WellFormed.lookup_extra {depth : Nat} {d : Diagnostic} (h : d.WellFormed depth)
    {key : String} (hkey : key ∈ reserved) : (Value.sortMembers d.extra).lookup key = none := by
  rw [h.sorted.sortMembers_eq, List.lookup_eq_none_iff]
  intro m hm
  have hne : key ≠ m.1 := fun he => h.unreserved m hm (he ▸ hkey)
  simpa using hne

/-- A reserved key is found in the one field that is written with it. -/
theorem WellFormed.lookup_sortMembers {depth : Nat} {d : Diagnostic} (h : d.WellFormed depth)
    {key : String} (hkey : key ∈ reserved) :
    (Value.sortMembers (d.fields ++ d.extra)).lookup key =
      if key = "line" then d.line.map .ofNat
      else if key = "column" then d.column.map .ofNat
      else if key = "rule" then if d.rule.isEmpty then none else some (.text d.rule)
      else if key = "severity" then if d.severity.isEmpty then none else some (.text d.severity)
      else if d.text.isEmpty then none else some (.text d.text) := by
  have hextra := h.lookup_extra hkey
  simp only [reserved, List.mem_cons, List.not_mem_nil, or_false] at hkey
  rcases hkey with rfl | rfl | rfl | rfl | rfl <;>
    simp [fields, hextra, Value.lookup_sortMembers_append,
      Value.lookup_sortMembers_optionalMember, Value.lookup_sortMembers_textMember]

theorem WellFormed.extraMembers_sortMembers {depth : Nat} {d : Diagnostic}
    (h : d.WellFormed depth) :
    Value.extraMembers reserved (Value.sortMembers (d.fields ++ d.extra)) = d.extra := by
  have hfields : d.fields.filter (fun m => !reserved.contains m.1) = [] := by
    refine List.filter_eq_nil_iff.mpr fun m hm => ?_
    simpa using (cases_of_mem_fields hm).1
  have hextra : d.extra.filter (fun m => !reserved.contains m.1) = d.extra := by
    refine List.filter_eq_self.mpr fun m hm => ?_
    simpa using h.unreserved m hm
  rw [Value.extraMembers, Value.filter_sortMembers (fun key => !reserved.contains key),
    List.filter_append, hfields, hextra, List.nil_append, h.sorted.sortMembers_eq]

/-- Sorting the members of a diagnostic does not change what they say. -/
theorem WellFormed.ofValue?_sortMembers {depth : Nat} {d : Diagnostic} (h : d.WellFormed depth) :
    ofValue? (.record (Value.sortMembers (d.fields ++ d.extra))) = some d := by
  have hline := h.lookup_sortMembers (by decide : "line" ∈ reserved)
  have hcolumn := h.lookup_sortMembers (by decide : "column" ∈ reserved)
  have hrule := h.lookup_sortMembers (by decide : "rule" ∈ reserved)
  have hseverity := h.lookup_sortMembers (by decide : "severity" ∈ reserved)
  have htext := h.lookup_sortMembers (by decide : "text" ∈ reserved)
  exact ofValue?_record_of_readFrom {
    line := Value.optional?_toNat?_eq_some_iff.mpr ⟨.inl hline, h.line_le⟩
    column := Value.optional?_toNat?_eq_some_iff.mpr ⟨.inl hcolumn, h.column_le⟩
    rule := Value.withDefault?_of_lookup hrule
    severity := Value.withDefault?_of_lookup hseverity
    text := Value.withDefault?_of_lookup htext
    extra := h.extraMembers_sortMembers.symm }

/-- The record of a diagnostic is read with its members sorted. -/
theorem WellFormed.readsBack {depth : Nat} {d : Diagnostic} (h : d.WellFormed depth)
    (hreal : ∀ m ∈ d.extra, ∀ x, .real x ∉ m.2.numbers) (level : Nat) :
    Json.ReadsBack (Json.readValue (depth + 1)) (Json.write .pretty level d.toValue)
      (.record (Value.sortMembers (d.fields ++ d.extra))) := by
  rw [toValue_eq]
  refine Json.readsBack_record Json.Layout.isSpaced_pretty fun m hm => ?_
  rcases List.mem_append.mp hm with hm | hm
  · rcases (cases_of_mem_fields hm).2 with ⟨n, hn, hvalue⟩ | ⟨s, hvalue⟩
    · have hle : n ≤ maxWord := hn.elim (h.line_le n) (h.column_le n)
      rw [hvalue]
      exact Json.readsBack_integer depth _ ⟨by omega, by omega⟩
    · rw [hvalue]
      exact Json.readsBack_text depth _ s
  · exact (h.normal m hm).readsBack Json.Layout.isSpaced_pretty (hreal m hm) _

end Diagnostic

/-! ## Lists of diagnostics -/

theorem AnalysisResult.wellFormed_of_diagnostics? {depth : Nat} {v : Value} {ds : List Diagnostic}
    (hv : v.Normal (depth + 2)) (h : diagnostics? v = some ds) : ∀ d ∈ ds, d.WellFormed depth := by
  obtain ⟨items, hitems, h⟩ := Option.bind_eq_some_iff.mp h
  obtain rfl := Value.eq_list_of_toList? hitems
  cases hv with
  | list hvalues =>
    intro d hd
    obtain ⟨item, hitem, hread⟩ := exists_of_mapM h d hd
    exact Diagnostic.wellFormed_of_ofValue? (hvalues item hitem) hread

/-- Diagnostics are found in a list, or one level deeper in a record. -/
theorem wellFormed_of_diagnosticsOfValue? {depth : Nat} {v : Value} {ds : List Diagnostic}
    (hv : v.Normal (depth + 2)) (h : diagnosticsOfValue? v = some ds) :
    ∀ d ∈ ds, d.WellFormed depth := by
  unfold diagnosticsOfValue? at h
  split at h
  · exact AnalysisResult.wellFormed_of_diagnostics? hv h
  · obtain ⟨r, hr, rfl⟩ := Option.map_eq_some_iff.mp h
    obtain ⟨members, rfl, hread⟩ := AnalysisResult.exists_readFrom hr
    have hwarnings := hread.warnings
    cases hv with
    | record _ hvalues =>
      unfold Value.withDefault? at hwarnings
      split at hwarnings
      · rw [← Option.some.inj hwarnings]
        simp
      · rename_i w hw
        obtain ⟨front, back, rfl, -⟩ := List.lookup_eq_some_iff.mp hw
        have hnormal : w.Normal (depth + 1) := hvalues ("warnings", w) (by simp)
        exact AnalysisResult.wellFormed_of_diagnostics? (hnormal.mono (Nat.le_succ _)) hwarnings

theorem Json.normal_of_parse {t : Text} {v : Value} (h : Json.parse t = some v) :
    v.Normal Json.maxDepth := by
  unfold Json.parse at h
  split at h
  · rename_i found rest hread
    split at h
    · obtain rfl := Option.some.inj h
      exact Json.normal_of_readValue hread
    · simp at h
  · simp at h

theorem Json.ReadsBack.parse_eq {t : Text} {v : Value}
    (h : Json.ReadsBack (Json.readValue Json.maxDepth) t v) : Json.parse t = some v := by
  have hread := h.reads [] [] (by simp) Json.endsNumeral_nil
  rw [List.nil_append, List.append_nil] at hread
  simp [Json.parse, hread, Json.skipSpace]

/-- A JSON report of diagnostics that were read is read as the same diagnostics, unless there are
real numbers in their extra members. -/
theorem parseDiagnostics_renderDiagnostics (input : Text) (ds : List Diagnostic) (source : String)
    (hparse : parseDiagnostics input = .ok ds)
    (hreal : ∀ d ∈ ds, ∀ m ∈ d.extra, ∀ x, .real x ∉ m.2.numbers) :
    parseDiagnostics (renderDiagnostics ds source .json).toList = .ok ds := by
  have hds : ∀ d ∈ ds, d.WellFormed 125 := by
    unfold parseDiagnostics at hparse
    split at hparse
    · rename_i found hfound
      obtain rfl := Except.ok.inj hparse
      obtain ⟨v, hv, hvalue⟩ := Option.bind_eq_some_iff.mp hfound
      exact wellFormed_of_diagnosticsOfValue? (Json.normal_of_parse hv) hvalue
    · simp at hparse
  -- the list takes one level and each record another one
  have hread : Json.parse (Json.pretty (.list (ds.map Diagnostic.toValue))) =
      some (.list (ds.map fun d => .record (Value.sortMembers (d.fields ++ d.extra)))) :=
    (Json.readsBack_list Json.Layout.isSpaced_pretty fun d hd =>
      (hds d hd).readsBack (hreal d hd) 1).parse_eq
  have hdiagnostics : AnalysisResult.diagnostics?
      (.list (ds.map fun d => .record (Value.sortMembers (d.fields ++ d.extra)))) = some ds :=
    mapM_map_eq_some fun d hd => (hds d hd).ofValue?_sortMembers
  simp only [parseDiagnostics, renderDiagnostics, String.toList_ofList, hread, Option.bind_some,
    diagnosticsOfValue?, hdiagnostics]

/-- Members that are not sorted, with the least integer and an escaped text in them. -/
def nestedInput : Text :=
  "[\x7b\"z\":[-9223372036854775808],\"line\":7,\"a\":\"\\\"\\né\"\x7d]".toList

def nestedDiagnostics : List Diagnostic :=
  [{ line := some 7, extra := [("a", .text "\"\né"),
    ("z", .list [.number (.integer (-9223372036854775808))])] }]

theorem parseDiagnostics_renderDiagnostics_nested :
    parseDiagnostics nestedInput = .ok nestedDiagnostics ∧
      (∀ d ∈ nestedDiagnostics, ∀ m ∈ d.extra, ∀ x, .real x ∉ m.2.numbers) ∧
      parseDiagnostics (renderDiagnostics nestedDiagnostics "page.html" .json).toList =
        .ok nestedDiagnostics := by
  have hparse : parseDiagnostics nestedInput = .ok nestedDiagnostics := by
    rfl
  have hreal : ∀ d ∈ nestedDiagnostics, ∀ m ∈ d.extra, ∀ x, .real x ∉ m.2.numbers := by
    intro d hd m hm x
    obtain rfl := List.mem_singleton.mp hd
    simp only [List.mem_cons, List.not_mem_nil, or_false] at hm
    rcases hm with rfl | rfl
    · exact List.not_mem_nil
    · have hnumbers : Value.numbers (.list [.number (.integer (-9223372036854775808))]) =
          [.integer (-9223372036854775808)] := rfl
      simp [hnumbers]
  exact ⟨hparse, hreal, parseDiagnostics_renderDiagnostics nestedInput nestedDiagnostics
    "page.html" hparse hreal⟩

end Excerpt
