import Excerpt.Proofs.Pattern.Search

/-! # Walking through a text

The places of a text are told by their positions. From a place, a class that is repeated leads to
every place up to the first character that it does not accept, and a search tries one place after
the other. -/

namespace Excerpt.Pattern

/-! ## Places by position -/

/-- The place behind the first `i` characters of a text. -/
def Cursor.place (host : Text) (i : Nat) : Cursor :=
  ⟨i, (host.take i).reverse, host.drop i⟩

theorem reverse_take_succ {host : Text} {i : Nat} (h : i < host.length) :
    (host.take (i + 1)).reverse = host[i] :: (host.take i).reverse := by
  rw [← List.take_append_getElem h, List.reverse_append]
  rfl

namespace Cursor

theorem next?_place {host : Text} {i : Nat} (h : i < host.length) :
    (place host i).next? = some (place host (i + 1)) := by
  simp only [place, next?, reverse_take_succ h]
  rw [List.drop_eq_getElem_cons h]

theorem offset_place (host : Text) (i : Nat) :
    (place host i).offset = Text.byteLength (host.take i) :=
  Text.byteLength_reverse _

end Cursor

namespace Way

/-- The way at another place. -/
def move (w : Way) (host : Text) (i : Nat) : Way :=
  { w with cursor := .place host i, seen := [] }

/-- A way that stands at a position of a text and has passed no gate there. -/
structure StandsAt (w : Way) (host : Text) (i : Nat) : Prop where
  cursor_eq : w.cursor = .place host i
  seen_eq : w.seen = []

theorem standsAt_start (host : Text) (i : Nat) : (start (.place host i)).StandsAt host i :=
  ⟨rfl, rfl⟩

theorem standsAt_move (w : Way) (host : Text) (i : Nat) : (w.move host i).StandsAt host i :=
  ⟨rfl, rfl⟩

@[simp] theorem move_move (w : Way) (host : Text) (i : Nat) :
    (w.move host i).move host = w.move host :=
  rfl

theorem StandsAt.move_eq {w : Way} {host : Text} {i : Nat} (h : w.StandsAt host i) :
    w.move host i = w := by
  obtain ⟨cursor, opened, groups, seen⟩ := w
  obtain ⟨rfl, rfl⟩ := h
  rfl

theorem StandsAt.index_eq {w : Way} {host : Text} {i : Nat} (h : w.StandsAt host i) :
    w.index = i := by
  rw [index, h.cursor_eq]
  rfl

/-- A step goes to the next position if its character is accepted. -/
theorem StandsAt.step?_eq {w : Way} {host : Text} {i : Nat} (h : w.StandsAt host i)
    (c : CharClass) :
    w.step? c = if host[i]?.any c.accepts then some (w.move host (i + 1)) else none := by
  unfold step?
  rw [h.cursor_eq]
  by_cases hi : i < host.length
  · simp only [Cursor.place, List.getElem?_eq_getElem hi, Option.any_some, move,
      reverse_take_succ hi]
    rw [List.drop_eq_getElem_cons hi]
  · have hnil : host.drop i = [] := List.drop_eq_nil_of_le (Nat.le_of_not_lt hi)
    simp [Cursor.place, hnil, hi]

end Way

/-! ## Places that have been reached -/

/-- All places that have been reached lie in front of a position. -/
def Places.Below (places : Places) (i : Nat) : Prop :=
  ∀ j, i ≤ j → places.contains j = false

theorem Places.below_none (i : Nat) : Places.none.Below i := by
  intro j _
  simp [none, contains]

theorem Places.Below.mono {places : Places} {i j : Nat} (h : places.Below i) (hij : i ≤ j) :
    places.Below j :=
  fun k hk => h k (Nat.le_trans hij hk)

theorem Places.Below.insert {places : Places} {i : Nat} (h : places.Below i) :
    (places.insert i).Below (i + 1) := by
  intro j hj
  have hne : i ≠ j := by omega
  have hplaces := h j (by omega)
  simp only [contains] at hplaces
  simp [Places.insert, contains, Nat.testBit_or, Nat.one_shiftLeft, hne, hplaces]

/-! ## Walks -/

/-- The number of characters from a position on that a class accepts one after the other. -/
def runLength (c : CharClass) (host : Text) (i : Nat) : Nat :=
  ((host.drop i).takeWhile c.accepts).length

theorem runLength_eq (c : CharClass) (host : Text) (i : Nat) :
    runLength c host i =
      if host[i]?.any c.accepts then runLength c host (i + 1) + 1 else 0 := by
  by_cases hi : i < host.length
  · simp only [runLength, List.drop_eq_getElem_cons hi, List.takeWhile_cons,
      List.getElem?_eq_getElem hi, Option.any_some]
    split <;> simp
  · have hnil : host.drop i = [] := List.drop_eq_nil_of_le (Nat.le_of_not_lt hi)
    simp [runLength, hnil, hi]

theorem runLength_append {c : CharClass} {host t rest : Text} {i : Nat}
    (hdrop : host.drop i = t ++ rest) (ht : ∀ char ∈ t, c.accepts char)
    (hrest : ∀ char ∈ rest.head?, ¬ c.accepts char) : runLength c host i = t.length := by
  rw [runLength, hdrop, List.takeWhile_append_of_pos ht, List.length_append]
  cases rest with
  | nil => simp
  | cons char rest => simp [hrest char rfl]

theorem drop_runLength (c : CharClass) (host : Text) (i : Nat) :
    host.drop (i + runLength c host i) = (host.drop i).dropWhile c.accepts := by
  have hsplit : (host.drop i).takeWhile c.accepts ++ (host.drop i).dropWhile c.accepts =
      host.drop i :=
    List.takeWhile_append_dropWhile
  calc
    host.drop (i + runLength c host i) = (host.drop i).drop (runLength c host i) := by
      rw [List.drop_drop]
    _ = ((host.drop i).takeWhile c.accepts ++ (host.drop i).dropWhile c.accepts).drop
        (runLength c host i) := by rw [hsplit]
    _ = (host.drop i).dropWhile c.accepts := List.drop_left

/-- Within the run every character is accepted. -/
theorem accepts_of_lt_runLength {c : CharClass} {host : Text} {i j : Nat} (hij : i ≤ j)
    (hj : j < i + runLength c host i) : host[j]?.any c.accepts := by
  induction h : runLength c host i generalizing i with
  | zero => omega
  | succ length ih =>
    rw [runLength_eq] at h
    split at h
    · rename_i haccepts
      rcases Nat.eq_or_lt_of_le hij with rfl | hlt
      · exact haccepts
      · have hnext : runLength c host (i + 1) = length := by omega
        have hlength : runLength c host i = length + 1 := by
          rw [runLength_eq, if_pos haccepts, hnext]
        exact ih (i := i + 1) hlt (by omega) hnext
    · omega

/-- Behind the run the text ends, or its next character is not accepted. -/
theorem not_accepts_runLength (c : CharClass) (host : Text) (i : Nat) :
    ¬ host[i + runLength c host i]?.any c.accepts := by
  induction h : runLength c host i generalizing i with
  | zero =>
    rw [runLength_eq] at h
    split at h
    · omega
    · assumption
  | succ length ih =>
    rw [runLength_eq] at h
    split at h
    · have hnext := ih (i + 1) (by omega)
      rwa [Nat.add_right_comm, Nat.add_assoc] at hnext
    · omega

theorem filterMap_singleton {α β : Type} (f : α → Option β) (a : α) :
    [a].filterMap f = (f a).toList := by
  cases h : f a <;> simp [h]

/-- The ways that a repeated class leads to, the preferred ones first. -/
def Way.walk (w : Way) (host : Text) (c : CharClass) (greedy : Bool) : List Way :=
  let ways := (List.range' w.index (runLength c host w.index + 1)).map (w.move host)
  if greedy then ways.reverse else ways

/-- Where nothing goes on from within the walk, all that goes on does so from its end. -/
theorem Way.filterMap_walk {w : Way} {host : Text} {c : CharClass} {f : Way → Option Way}
    (h : ∀ j, host[j]?.any c.accepts → f (w.move host j) = none) (greedy : Bool) :
    (w.walk host c greedy).filterMap f =
      (f (w.move host (w.index + runLength c host w.index))).toList := by
  have hwithin : ((List.range' w.index (runLength c host w.index)).map (w.move host)).filterMap f =
      [] := by
    rw [List.filterMap_eq_nil_iff]
    intro v hv
    obtain ⟨j, hj, rfl⟩ := List.mem_map.mp hv
    obtain ⟨hle, hlt⟩ := List.mem_range'_1.mp hj
    exact h j (accepts_of_lt_runLength hle hlt)
  have hend := filterMap_singleton f (w.move host (w.index + runLength c host w.index))
  unfold walk
  rw [List.range'_concat, List.map_append, Nat.one_mul, List.map_singleton]
  cases greedy with
  | false => simp only [Bool.false_eq_true, if_false, List.filterMap_append, hwithin, hend,
      List.nil_append]
  | true => simp only [if_true, List.reverse_append, List.reverse_singleton,
      List.filterMap_append, List.filterMap_reverse, hwithin, hend, List.reverse_nil,
      List.append_nil]

theorem visitRounds_set (c : CharClass) (greedy : Bool) {host : Text} {i rounds : Nat}
    (hrounds : rounds = host.length - i) {w : Way} (hw : w.StandsAt host i) {reached : Places}
    (hreached : reached.Below i) :
    (visitRounds (fun v => (Node.set c).run [v]) greedy rounds w reached).1 =
        w.walk host c greedy ∧
      (visitRounds (fun v => (Node.set c).run [v]) greedy rounds w reached).2.Below
        (i + runLength c host i + 1) := by
  induction rounds generalizing i w reached with
  | zero =>
    have hfresh : reached.contains i = false := hreached i (Nat.le_refl i)
    have hnone : host[i]? = none := List.getElem?_eq_none (by omega)
    have hlength : runLength c host i = 0 := by simp [runLength_eq c host i, hnone]
    rw [visitRounds]
    simp only [hw.index_eq, hfresh, Bool.false_eq_true, if_false, Way.walk, hlength]
    exact ⟨by simp [hw.move_eq], hreached.insert⟩
  | succ rounds ih =>
    have hfresh : reached.contains i = false := hreached i (Nat.le_refl i)
    rw [visitRounds]
    simp only [hw.index_eq, hfresh, Bool.false_eq_true, if_false, Way.walk]
    rw [Node.run, filterMap_singleton, hw.step?_eq]
    by_cases haccepts : host[i]?.any c.accepts
    · have hnext := w.standsAt_move host (i + 1)
      obtain ⟨hways, hplaces⟩ := ih (by omega) hnext hreached.insert
      have hlength : runLength c host i = runLength c host (i + 1) + 1 := by
        rw [runLength_eq, if_pos haccepts]
      simp only [haccepts, if_true, Option.toList_some, visitAll, hways, hlength]
      refine ⟨?_, hplaces.mono (by omega)⟩
      rw [List.range'_succ]
      cases greedy <;> simp [Way.walk, hnext.index_eq, hw.move_eq]
    · have hlength : runLength c host i = 0 := by rw [runLength_eq, if_neg haccepts]
      simp only [haccepts, Bool.false_eq_true, if_false, Option.toList_none, visitAll, hlength]
      exact ⟨by cases greedy <;> simp [hw.move_eq], hreached.insert⟩

/-- Walks that lie apart do not disturb each other. -/
theorem Node.run_star_set {c : CharClass} {greedy : Bool} {host : Text} {ways : List Way}
    (hways : ∀ w ∈ ways, w.StandsAt host w.index)
    (hapart : ways.Pairwise fun u v => u.index + runLength c host u.index < v.index) :
    (Node.star greedy (.set c)).run ways = ways.flatMap fun w => w.walk host c greedy := by
  rw [Node.run, manyRounds]
  have hbelow : ∀ w ∈ ways, Places.none.Below w.index := fun w _ => Places.below_none w.index
  generalize Places.none = reached at hbelow
  induction ways generalizing reached with
  | nil => rfl
  | cons w rest ih =>
    obtain ⟨hfirst, hrest⟩ := List.pairwise_cons.mp hapart
    have hw : w.StandsAt host w.index := hways w (by simp)
    have hrounds : w.cursor.after.length = host.length - w.index := by
      rw [hw.cursor_eq]
      exact List.length_drop
    obtain ⟨hwalk, hplaces⟩ := visitRounds_set c greedy hrounds hw (hbelow w (by simp))
    simp only [visitAll, List.flatMap_cons, hwalk]
    rw [ih (fun v hv => hways v (by simp [hv])) hrest]
    intro v hv
    exact hplaces.mono (hfirst v hv)

/-! ## Searching place by place -/

theorem Node.search_place_of_lt (n : Node) {host : Text} {i : Nat} (h : i < host.length) :
    n.search (.place host i) =
      (n.matchAt (.place host i)).or (n.search (.place host (i + 1))) := by
  unfold search
  simp only [Cursor.place]
  rw [List.drop_eq_getElem_cons h, searchFrom, reverse_take_succ h]
  cases n.matchAt ⟨i, (host.take i).reverse, host[i] :: host.drop (i + 1)⟩ <;> rfl

theorem Node.search_place_length (n : Node) (host : Text) :
    n.search (.place host host.length) = n.matchAt (.place host host.length) := by
  simp [search, Cursor.place, searchFrom]

theorem Node.search_place_eq_findSome? (n : Node) {host : Text} {i : Nat} (hi : i ≤ host.length) :
    n.search (.place host i) =
      (List.range' i (host.length - i + 1)).findSome? fun s => n.matchAt (.place host s) := by
  induction hk : host.length - i generalizing i with
  | zero =>
    obtain rfl : i = host.length := by omega
    rw [search_place_length]
    simp
  | succ k ih =>
    have hlt : i < host.length := by omega
    rw [List.range'_succ, List.findSome?_cons, search_place_of_lt n hlt, ih hlt (by omega)]
    cases n.matchAt (.place host i) <;> rfl

theorem findSome?_range'_eq_some_iff {α : Type} {f : Nat → Option α} {a : α} {i n : Nat} :
    (List.range' i n).findSome? f = some a ↔
      ∃ k, i ≤ k ∧ k < i + n ∧ f k = some a ∧ ∀ j, i ≤ j → j < k → f j = none := by
  induction n generalizing i with
  | zero => simp; omega
  | succ n ih =>
    rw [List.range'_succ, List.findSome?_cons]
    cases hi : f i with
    | some b =>
      constructor
      · intro h
        exact ⟨i, Nat.le_refl i, by omega, hi.trans h, fun j hij hji => absurd hij (by omega)⟩
      · rintro ⟨k, hik, -, hk, hfirst⟩
        rcases Nat.eq_or_lt_of_le hik with rfl | hlt
        · exact hi.symm.trans hk
        · simp [hfirst i (Nat.le_refl i) hlt] at hi
    | none =>
      rw [ih]
      constructor
      · rintro ⟨k, hik, hkn, hk, hfirst⟩
        refine ⟨k, by omega, by omega, hk, ?_⟩
        intro j hij hjk
        rcases Nat.eq_or_lt_of_le hij with rfl | hlt
        · exact hi
        · exact hfirst j hlt hjk
      · rintro ⟨k, hik, hkn, hk, hfirst⟩
        have hne : i ≠ k := by
          rintro rfl
          simp [hi] at hk
        exact ⟨k, by omega, by omega, hk, fun j hij hjk => hfirst j (by omega) hjk⟩

/-- A search finds the match at the first place that has one. -/
theorem Node.search_place_eq_some_iff (n : Node) {host : Text} {i : Nat} (hi : i ≤ host.length)
    (m : Match) :
    n.search (.place host i) = some m ↔
      ∃ s, i ≤ s ∧ s ≤ host.length ∧ n.matchAt (.place host s) = some m ∧
        ∀ q, i ≤ q → q < s → n.matchAt (.place host q) = none := by
  have hlast : ∀ s, s < i + (host.length - i + 1) ↔ s ≤ host.length := by
    intro s
    omega
  simp only [search_place_eq_findSome? n hi, findSome?_range'_eq_some_iff, hlast]

theorem Node.search_place_eq_none_iff (n : Node) {host : Text} {i : Nat} (hi : i ≤ host.length) :
    n.search (.place host i) = none ↔
      ∀ s, i ≤ s → s ≤ host.length → n.matchAt (.place host s) = none := by
  simp only [search_place_eq_findSome? n hi, List.findSome?_eq_none_iff, List.mem_range'_1]
  constructor
  · intro h s his hs
    exact h s ⟨his, by omega⟩
  · rintro h s ⟨his, hs⟩
    exact h s his (by omega)

end Excerpt.Pattern
