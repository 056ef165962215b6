import Excerpt.Json.Reader
import Excerpt.Proofs.Json.Tokens
import Excerpt.Proofs.Value.Members

/-! # Values as a reader returns them

Whatever text it is given, the reader returns integers that fit 64 bits and records with sorted
members, and it does not nest them deeper than it was allowed to. -/

namespace Excerpt

namespace Value

/-- The form of a value that a reader returns when it may nest `depth` deep. -/
inductive Normal : Nat → Value → Prop where
  | null (depth : Nat) : Normal depth .null
  | bool (depth : Nat) (b : Bool) : Normal depth (.bool b)
  | number (depth : Nat) {n : Number} (h : Json.Fits n) : Normal depth (.number n)
  | text (depth : Nat) (s : String) : Normal depth (.text s)
  | list {depth : Nat} {items : List Value} (h : ∀ v ∈ items, Normal depth v) :
      Normal (depth + 1) (.list items)
  | record {depth : Nat} {members : List (String × Value)} (hsorted : Sorted members)
      (h : ∀ m ∈ members, Normal depth m.2) : Normal (depth + 1) (.record members)

theorem Normal.mono {depth depth' : Nat} {v : Value} (h : v.Normal depth) (hle : depth ≤ depth') :
    v.Normal depth' := by
  induction h generalizing depth' with
  | null => exact .null depth'
  | bool _ b => exact .bool depth' b
  | number _ hn => exact .number depth' hn
  | text _ s => exact .text depth' s
  | list _ ih =>
    obtain ⟨deeper, rfl⟩ := Nat.exists_eq_add_of_lt hle
    exact .list fun v hv => ih v hv (by omega)
  | record hsorted _ ih =>
    obtain ⟨deeper, rfl⟩ := Nat.exists_eq_add_of_lt hle
    exact .record hsorted fun m hm => ih m hm (by omega)

end Value

namespace Json

section Series

variable {α : Type} {item : Text → Option (α × Text)} {close : Char} {t rest : Text} {xs : List α}
  {q : α → Prop}

theorem forall_of_readMore (hitem : ∀ t x rest, item t = some (x, rest) → q x) {fuel : Nat}
    (h : readMore item close fuel t = some (xs, rest)) : ∀ x ∈ xs, q x := by
  induction fuel generalizing t xs with
  | zero => simp [readMore] at h
  | succ fuel ih =>
    rw [readMore] at h
    split at h
    · simp at h
    · rename_i x t' hx
      split at h
      · obtain ⟨⟨more, end'⟩, hmore, heq⟩ := Option.map_eq_some_iff.mp h
        obtain ⟨rfl, rfl⟩ := Prod.mk.inj heq
        intro y hy
        rcases List.mem_cons.mp hy with rfl | hy
        · exact hitem _ _ _ hx
        · exact ih hmore y hy
      · split at h
        · obtain ⟨rfl, -⟩ := Prod.mk.inj (Option.some.inj h)
          intro y hy
          obtain rfl := List.mem_singleton.mp hy
          exact hitem _ _ _ hx
        · simp at h
      · simp at h

theorem forall_of_readSeries (hitem : ∀ t x rest, item t = some (x, rest) → q x)
    (h : readSeries item close t = some (xs, rest)) : ∀ x ∈ xs, q x := by
  unfold readSeries at h
  split at h
  · simp at h
  · split at h
    · obtain ⟨rfl, -⟩ := Prod.mk.inj (Option.some.inj h)
      simp
    · exact forall_of_readMore hitem h

end Series

theorem of_readMember {value : Text → Option (Value × Text)} {q : Value → Prop}
    (hvalue : ∀ t v rest, value t = some (v, rest) → q v) (t : Text) (m : String × Value)
    (rest : Text) (h : readMember value t = some (m, rest)) : q m.2 := by
  unfold readMember at h
  split at h
  · split at h
    · simp at h
    · split at h
      · obtain ⟨⟨v, tail⟩, hv, heq⟩ := Option.map_eq_some_iff.mp h
        obtain ⟨rfl, -⟩ := Prod.mk.inj heq
        exact hvalue _ _ _ hv
      · simp at h
  · simp at h

/-- Whatever is read is in normal form. -/
theorem normal_of_readValue {depth : Nat} {t rest : Text} {v : Value}
    (h : readValue depth t = some (v, rest)) : v.Normal depth := by
  induction depth using Nat.strongRecOn generalizing t v rest with
  | ind depth ih =>
    unfold readValue at h
    split at h
    · obtain ⟨rfl, -⟩ := Prod.mk.inj (Option.some.inj h)
      exact .null depth
    · obtain ⟨rfl, -⟩ := Prod.mk.inj (Option.some.inj h)
      exact .bool depth true
    · obtain ⟨rfl, -⟩ := Prod.mk.inj (Option.some.inj h)
      exact .bool depth false
    · obtain ⟨⟨s, tail⟩, -, heq⟩ := Option.map_eq_some_iff.mp h
      obtain ⟨rfl, -⟩ := Prod.mk.inj heq
      exact .text depth _
    · split at h
      · simp at h
      · obtain ⟨⟨items, tail⟩, hitems, heq⟩ := Option.map_eq_some_iff.mp h
        obtain ⟨rfl, -⟩ := Prod.mk.inj heq
        exact .list (forall_of_readSeries (fun _ _ _ => ih _ (Nat.lt_succ_self _)) hitems)
    · split at h
      · simp at h
      · obtain ⟨⟨members, tail⟩, hmembers, heq⟩ := Option.map_eq_some_iff.mp h
        obtain ⟨rfl, -⟩ := Prod.mk.inj heq
        have hvalues := forall_of_readSeries
          (of_readMember fun _ _ _ => ih _ (Nat.lt_succ_self _)) hmembers
        exact .record (Value.sorted_sortMembers members) fun m hm =>
          hvalues m (Value.mem_of_mem_sortMembers hm)
    · obtain ⟨⟨n, tail⟩, hn, heq⟩ := Option.map_eq_some_iff.mp h
      obtain ⟨rfl, -⟩ := Prod.mk.inj heq
      exact .number depth (fits_of_readNumber hn)

end Json

end Excerpt
