import Excerpt.Diagnostic

/-! # Fields that were read

What is known of the members of an object from which a diagnostic or a result was read. -/

namespace Excerpt

/-! ## Values of one kind -/

namespace Value

theorem eq_record_of_toRecord? {v : Value} {members : List (String × Value)}
    (h : v.toRecord? = some members) : v = .record members := by
  cases v with
  | record found => rw [Option.some.inj h]
  | _ => simp [toRecord?] at h

theorem eq_list_of_toList? {v : Value} {items : List Value} (h : v.toList? = some items) :
    v = .list items := by
  cases v with
  | list found => rw [Option.some.inj h]
  | _ => simp [toList?] at h

theorem toText?_eq_some_iff {v : Value} {s : String} : v.toText? = some s ↔ v = .text s := by
  cases v <;> simp [toText?]

theorem toNat?_ofNat {n : Nat} (h : n ≤ maxWord) : toNat? (ofNat n) = some n :=
  if_pos h

theorem toNat?_eq_some_iff {v : Value} {n : Nat} :
    v.toNat? = some n ↔ v = .ofNat n ∧ n ≤ maxWord := by
  constructor
  · intro h
    unfold toNat? at h
    split at h
    · split at h
      · rename_i hle
        obtain rfl := Option.some.inj h
        exact ⟨rfl, hle⟩
      · simp at h
    · simp at h
  · rintro ⟨rfl, hle⟩
    exact toNat?_ofNat hle

end Value

/-! ## Members -/

namespace Value

/-- What a member that may be missing or null gives. -/
def GivesOptional {α : Type} (encode : α → Value) (key : String) (members : List (String × Value))
    (o : Option α) : Prop :=
  members.lookup key = o.map encode ∨ members.lookup key = some .null ∧ o = none

/-- What a member that may be missing gives. A text that is missing is empty. -/
def GivesText (key : String) (members : List (String × Value)) (s : String) : Prop :=
  members.lookup key = some (.text s) ∨ members.lookup key = none ∧ s = ""

/-- Every value that is decoded has one written form, and it is not null. -/
theorem optional?_eq_some_iff {α : Type} {decode : Value → Option α} {encode : α → Value}
    {q : α → Prop} (hdecode : ∀ v a, decode v = some a ↔ v = encode a ∧ q a)
    (hnull : ∀ a, encode a ≠ .null) {key : String} {members : List (String × Value)}
    {o : Option α} :
    optional? decode key members = some o ↔
      GivesOptional encode key members o ∧ ∀ a ∈ o, q a := by
  unfold optional? GivesOptional
  split
  · rename_i hlookup
    cases o <;> simp [hlookup]
  · rename_i hlookup
    cases o with
    | none => simp [hlookup]
    | some a => simp [hlookup, (hnull a).symm]
  · rename_i v hv hlookup
    cases o with
    | none => simpa [hlookup] using hv
    | some a => simp [hlookup, hdecode]

theorem optional?_toNat?_eq_some_iff {key : String} {members : List (String × Value)}
    {o : Option Nat} :
    optional? toNat? key members = some o ↔
      GivesOptional .ofNat key members o ∧ ∀ n ∈ o, n ≤ maxWord :=
  optional?_eq_some_iff (fun _ _ => toNat?_eq_some_iff) (by simp [ofNat])

theorem optional?_toText?_eq_some_iff {key : String} {members : List (String × Value)}
    {o : Option String} :
    optional? toText? key members = some o ↔ GivesOptional .text key members o := by
  have hdecode : ∀ v s, toText? v = some s ↔ v = .text s ∧ True := by
    simp [toText?_eq_some_iff]
  simpa using optional?_eq_some_iff hdecode (by simp)

theorem withDefault?_toText?_eq_some_iff {key s : String} {members : List (String × Value)} :
    withDefault? toText? "" key members = some s ↔ GivesText key members s := by
  unfold withDefault? GivesText
  split
  · rename_i hlookup
    simp [hlookup, eq_comm]
  · rename_i v hlookup
    simp [hlookup, toText?_eq_some_iff]

end Value

/-! ## Objects -/

namespace Diagnostic

/-- What the fields of a diagnostic are read from. -/
structure ReadFrom (members : List (String × Value)) (d : Diagnostic) : Prop where
  line : Value.optional? Value.toNat? "line" members = some d.line
  column : Value.optional? Value.toNat? "column" members = some d.column
  rule : Value.withDefault? Value.toText? "" "rule" members = some d.rule
  severity : Value.withDefault? Value.toText? "" "severity" members = some d.severity
  text : Value.withDefault? Value.toText? "" "text" members = some d.text
  extra : d.extra = Value.extraMembers reserved members

theorem exists_readFrom {v : Value} {d : Diagnostic} (h : ofValue? v = some d) :
    ∃ members, v = .record members ∧ ReadFrom members d := by
  obtain ⟨members, hmembers, h⟩ := Option.bind_eq_some_iff.mp h
  obtain ⟨line, hline, h⟩ := Option.bind_eq_some_iff.mp h
  obtain ⟨column, hcolumn, h⟩ := Option.bind_eq_some_iff.mp h
  obtain ⟨rule, hrule, h⟩ := Option.bind_eq_some_iff.mp h
  obtain ⟨severity, hseverity, h⟩ := Option.bind_eq_some_iff.mp h
  obtain ⟨text, htext, h⟩ := Option.bind_eq_some_iff.mp h
  obtain rfl := Option.some.inj h
  exact ⟨members, Value.eq_record_of_toRecord? hmembers,
    ⟨hline, hcolumn, hrule, hseverity, htext, rfl⟩⟩

theorem ofValue?_record_of_readFrom {members : List (String × Value)} {d : Diagnostic}
    (h : ReadFrom members d) : ofValue? (.record members) = some d := by
  simp only [ofValue?, Value.toRecord?, h.line, h.column, h.rule, h.severity, h.text, ← h.extra,
    Option.bind_eq_bind, Option.bind_some, Option.pure_def]

end Diagnostic

namespace AnalysisResult

/-- What the fields of a result are read from. -/
structure ReadFrom (members : List (String × Value)) (r : AnalysisResult) : Prop where
  source : Value.optional? Value.toText? "source" members = some r.source
  warnings : Value.withDefault? diagnostics? [] "warnings" members = some r.warnings
  extra : r.extra = Value.extraMembers reserved members

theorem exists_readFrom {v : Value} {r : AnalysisResult} (h : ofValue? v = some r) :
    ∃ members, v = .record members ∧ ReadFrom members r := by
  obtain ⟨members, hmembers, h⟩ := Option.bind_eq_some_iff.mp h
  obtain ⟨source, hsource, h⟩ := Option.bind_eq_some_iff.mp h
  obtain ⟨warnings, hwarnings, h⟩ := Option.bind_eq_some_iff.mp h
  obtain rfl := Option.some.inj h
  exact ⟨members, Value.eq_record_of_toRecord? hmembers, hsource, hwarnings, rfl⟩

end AnalysisResult

end Excerpt
