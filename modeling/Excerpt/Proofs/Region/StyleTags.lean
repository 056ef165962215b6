import Excerpt.Proofs.Pattern.Walk
import Excerpt.Proofs.Region.DefaultTags
import Mathlib.Order.Bounds.Defs

/-! # The tags of a style region

What the default tags match at a place, said by positions of the text alone: an opening tag up to
the first angle bracket, and then the first closing tag. -/

namespace Excerpt

open Pattern

/-! ## Regions by position -/

/-- A closing tag stands from position `i` up to position `stop`: `</`, any blanks, and `style>`. -/
def ClosesAt (host : Text) (i stop : Nat) : Prop :=
  ∃ blanks : Text, blanks.isBlank ∧ "</".toList ++ blanks ++ "style>".toList <+: host.drop i ∧
    stop = i + 2 + blanks.length + 6

/-- Where a style region starts, where its opening tag has its angle bracket, and where its closing
tag starts and stops. -/
structure StyleSpan where
  start : Nat
  angle : Nat
  closing : Nat
  stop : Nat
  deriving DecidableEq, Repr

namespace StyleSpan

/-- The tags stand in the text: `<style`, the first `>` behind it, and the first closing tag behind
that. -/
structure Tagged (host : Text) (span : StyleSpan) : Prop where
  opens : "<style".toList <+: host.drop span.start
  angle_isLeast : IsLeast {g | span.start + 6 ≤ g ∧ host[g]? = some '>'} span.angle
  closing_isLeast : IsLeast {c | span.angle < c ∧ ∃ stop, ClosesAt host c stop} span.closing
  closes : ClosesAt host span.closing span.stop

end StyleSpan

/-! ## Texts in a pattern -/

theorem cons_isPrefix_drop_iff {host t : Text} {c : Char} {i : Nat} :
    c :: t <+: host.drop i ↔ host[i]? = some c ∧ t <+: host.drop (i + 1) := by
  by_cases hi : i < host.length
  · rw [List.drop_eq_getElem_cons hi, List.cons_prefix_cons, List.getElem?_eq_getElem hi,
      Option.some.injEq, eq_comm]
  · have hnil : host.drop i = [] := List.drop_eq_nil_of_le (Nat.le_of_not_lt hi)
    simp [hnil, hi]

namespace Pattern

theorem CharClass.accepts_single (c char : Char) :
    (CharClass.single c).accepts char = (char == c) := by
  rw [Bool.eq_iff_iff]
  simp only [accepts, single, mem, Bool.and_eq_true, decide_eq_true_eq, beq_iff_eq,
    ← Char.toNat_inj]
  omega

theorem any_accepts_single_iff (c : Char) (char : Option Char) :
    char.any (CharClass.single c).accepts ↔ char = some c := by
  cases char <;> simp [CharClass.accepts_single]

/-- Reads a text that stands in the pattern as it is. -/
def Way.read? (t : Text) (w : Way) : Option Way :=
  t.foldlM (fun v c => v.step? (.single c)) w

theorem Way.read?_append (t u : Text) (w : Way) :
    w.read? (t ++ u) = (w.read? t).bind (Way.read? u) :=
  List.foldlM_append

theorem Way.StandsAt.read?_eq {w : Way} {host : Text} {i : Nat} (h : w.StandsAt host i) (t : Text) :
    w.read? t = if t <+: host.drop i then some (w.move host (i + t.length)) else none := by
  induction t generalizing w i with
  | nil => simp [read?, h.move_eq]
  | cons c t ih =>
    have hread : w.read? (c :: t) = (w.step? (.single c)).bind (Way.read? t) := rfl
    rw [hread, h.step?_eq]
    simp only [any_accepts_single_iff, cons_isPrefix_drop_iff]
    by_cases hc : host[i]? = some c
    · simp [hc, ih (w.standsAt_move host (i + 1)), Nat.add_assoc, Nat.add_comm 1]
    · simp [hc]

theorem Node.run_literal (t : Text) (rest : Node) (ways : List Way) :
    (Node.literal t rest).run ways = rest.run (ways.filterMap (Way.read? t)) := by
  induction t generalizing ways with
  | nil =>
    have hread : Way.read? [] = some := rfl
    rw [hread, List.filterMap_some]
    rfl
  | cons c t ih =>
    have hrun : (Node.literal (c :: t) rest).run ways =
        (Node.literal t rest).run (ways.filterMap (Way.step? (.single c))) := rfl
    rw [hrun, ih, List.filterMap_filterMap]
    rfl

theorem Node.run_literal_set (t : Text) (c : Char) (ways : List Way) :
    (Node.literal t (.set (.single c))).run ways = ways.filterMap (Way.read? (t ++ [c])) := by
  have hset : ∀ w : Way, w.step? (.single c) = w.read? [c] := by
    intro w
    cases h : w.step? (.single c) <;> simp [Way.read?, h]
  rw [run_literal, Node.run, List.filterMap_filterMap]
  congr 1
  funext w
  rw [Way.read?_append]
  congr 1
  funext v
  exact hset v

end Pattern

/-! ## The opening tag -/

/-- Everything but the angle bracket that ends a tag. -/
def insideTag : CharClass :=
  .complement (.union .none (.single '>'))

theorem accepts_insideTag (char : Char) : insideTag.accepts char = (char != '>') := by
  have h := CharClass.accepts_single '>' char
  simp only [CharClass.accepts] at h
  simp [insideTag, CharClass.accepts, CharClass.mem, h, bne]

/-- The first angle bracket at or behind a position. -/
def angle? (host : Text) (i : Nat) : Option Nat :=
  if host[i + runLength insideTag host i]? = some '>' then some (i + runLength insideTag host i)
  else none

theorem angle?_eq_some_iff {host : Text} {i g : Nat} :
    angle? host i = some g ↔ IsLeast {g | i ≤ g ∧ host[g]? = some '>'} g := by
  have hinside : ∀ j, i ≤ j → j < i + runLength insideTag host i → host[j]? ≠ some '>' := by
    intro j hij hj hangle
    have haccepts := accepts_of_lt_runLength hij hj
    simp [hangle, accepts_insideTag] at haccepts
  unfold angle?
  constructor
  · intro h
    split at h
    · rename_i hangle
      obtain rfl := Option.some.inj h
      refine ⟨⟨Nat.le_add_right _ _, hangle⟩, ?_⟩
      rintro j ⟨hij, hj⟩
      exact Nat.le_of_not_lt fun hlt => hinside j hij hlt hj
    · simp at h
  · rintro ⟨⟨hig, hg⟩, hleast⟩
    have hle : i + runLength insideTag host i ≤ g :=
      Nat.le_of_not_lt fun hlt => hinside g hig hlt hg
    -- the run ends at an angle bracket, since one follows and nothing else ends a run
    have hend : host[i + runLength insideTag host i]? = some '>' := by
      have hstop := not_accepts_runLength insideTag host i
      have hlt : i + runLength insideTag host i < host.length := by
        have := (List.getElem?_eq_some_iff.mp hg).1
        omega
      rw [List.getElem?_eq_getElem hlt] at hstop ⊢
      simpa [accepts_insideTag] using hstop
    have heq : i + runLength insideTag host i = g :=
      Nat.le_antisymm hle (hleast ⟨Nat.le_add_right _ _, hend⟩)
    rw [if_pos hend, heq]

theorem run_defaultOpening {w : Way} {host : Text} {s : Nat} (hw : w.StandsAt host s) :
    defaultOpening.run [w] =
      if "<style".toList <+: host.drop s then
        ((angle? host (s + 6)).map fun g => w.move host (g + 1)).toList
      else [] := by
  have hread : w.read? "<style".toList =
      if "<style".toList <+: host.drop s then some (w.move host (s + 6)) else none :=
    hw.read?_eq _
  have hrun : defaultOpening.run [w] =
      ((Node.star true (.set insideTag)).run (w.read? "<style".toList).toList).filterMap
        (Way.step? (.single '>')) := by
    rw [defaultOpening, ← filterMap_singleton]
    exact Node.run_literal _ _ _
  rw [hrun, hread]
  split
  · have hv := w.standsAt_move host (s + 6)
    have hinside : ∀ j, host[j]?.any insideTag.accepts →
        Way.step? (.single '>') ((w.move host (s + 6)).move host j) = none := by
      intro j hj
      rw [Way.move_move, (w.standsAt_move host j).step?_eq, if_neg]
      rw [any_accepts_single_iff]
      intro hangle
      simp [hangle, accepts_insideTag] at hj
    rw [Option.toList_some,
      Node.run_star_set (by simpa [hv.index_eq] using hv) (List.pairwise_singleton _ _),
      List.flatMap_singleton, Way.filterMap_walk hinside, hv.index_eq]
    simp only [Way.move_move, (w.standsAt_move host _).step?_eq, any_accepts_single_iff, angle?]
    split <;> rfl
  · rfl

/-! ## The body -/

theorem run_defaultBody {w : Way} {host : Text} {i : Nat} (hw : w.StandsAt host i) :
    defaultBody.run [w] = (List.range' i (host.length - i + 1)).map (w.move host) := by
  have hlength : runLength (.union (.union .none .space) (.complement .space)) host i =
      host.length - i := by
    rw [← List.length_drop]
    apply runLength_append (List.append_nil _).symm
    · intro char _
      simp [CharClass.accepts, CharClass.mem]
    · simp
  rw [defaultBody,
    Node.run_star_set (by simpa [hw.index_eq] using hw) (List.pairwise_singleton _ _)]
  simp [Way.walk, hw.index_eq, hlength]

/-! ## The closing tag -/

theorem accepts_space (char : Char) : CharClass.space.accepts char = isBlank char :=
  rfl

/-- Where the closing tag stops that starts at a position. -/
def closingStop? (host : Text) (i : Nat) : Option Nat :=
  if "</".toList <+: host.drop i then
    let j := i + 2 + runLength .space host (i + 2)
    if "style>".toList <+: host.drop j then some (j + 6) else none
  else none

theorem closingStop?_eq_some_iff {host : Text} {i stop : Nat} :
    closingStop? host i = some stop ↔ ClosesAt host i stop := by
  unfold closingStop?
  constructor
  · intro h
    split at h
    · rename_i hopen
      dsimp only at h
      split at h
      · rename_i hname
        obtain rfl := Option.some.inj h
        obtain ⟨inner, hinner⟩ := hopen
        obtain ⟨rest, hrest⟩ := hname
        have hdrop : host.drop (i + 2) = inner := by
          rw [← List.drop_drop, ← hinner]
          rfl
        have hbehind : "style>".toList ++ rest = inner.dropWhile isBlank := by
          rw [hrest, drop_runLength, hdrop]
          rfl
        refine ⟨inner.takeWhile isBlank, List.all_takeWhile, ⟨rest, ?_⟩, ?_⟩
        · rw [← hinner, List.append_assoc, List.append_assoc, hbehind,
            List.takeWhile_append_dropWhile]
        · rw [runLength, hdrop]
          rfl
      · simp at h
    · simp at h
  · rintro ⟨blanks, hblank, ⟨rest, hrest⟩, rfl⟩
    have hopen : "</".toList <+: host.drop i :=
      ⟨blanks ++ "style>".toList ++ rest, by simp [← hrest]⟩
    have hdrop : host.drop (i + 2) = blanks ++ ("style>".toList ++ rest) := by
      rw [← List.drop_drop, ← hrest]
      simp
    have hlength : runLength .space host (i + 2) = blanks.length :=
      runLength_append hdrop (List.all_eq_true.mp hblank) (by simp [accepts_space]; decide)
    have hname : "style>".toList <+: host.drop (i + 2 + blanks.length) := by
      rw [← List.drop_drop, hdrop, List.drop_left]
      exact List.prefix_append _ _
    simp only [hlength, hname, if_pos hopen, if_true]

/-- Between two tags that are opened stands a character that is not blank. -/
theorem runLength_lt_of_lt {host : Text} {i k : Nat} (hik : i < k)
    (hk : "</".toList <+: host.drop k) : i + 2 + runLength .space host (i + 2) < k + 2 := by
  have hslash : host[k + 1]? = some '/' :=
    (cons_isPrefix_drop_iff.mp (cons_isPrefix_drop_iff.mp hk).2).1
  refine Nat.lt_of_not_le fun hle => ?_
  have hblank : host[k + 1]?.any CharClass.space.accepts :=
    accepts_of_lt_runLength (i := i + 2) (by omega) (by omega)
  rw [hslash] at hblank
  exact absurd hblank (by decide)

/-- Behind a closing tag that has been opened, only its name can follow the blanks. -/
theorem filterMap_walk_space {w : Way} {host : Text} {j : Nat} (hw : w.StandsAt host j) :
    (w.walk host .space false).filterMap (Way.read? "style>".toList) =
      if "style>".toList <+: host.drop (j + runLength .space host j) then
        [w.move host (j + runLength .space host j + 6)]
      else [] := by
  have hblank : ∀ i, host[i]?.any CharClass.space.accepts →
      (w.move host i).read? "style>".toList = none := by
    intro i hi
    rw [(w.standsAt_move host i).read?_eq, if_neg]
    intro hname
    rw [(cons_isPrefix_drop_iff.mp hname).1] at hi
    exact absurd hi (by decide)
  rw [Way.filterMap_walk hblank, hw.index_eq, (w.standsAt_move host _).read?_eq]
  split <;> rfl

theorem findSome?_filterMap {α β γ : Type} (f : α → Option β) (g : β → Option γ) (l : List α) :
    (l.filterMap f).findSome? g = l.findSome? fun a => (f a).bind g := by
  induction l with
  | nil => rfl
  | cons a l ih => cases h : f a <;> simp [List.findSome?_cons, h, ih]

/-- Of several ways to a closing tag the first one wins that finds one. -/
theorem head?_run_defaultClosing (host : Text) (positions : List Nat) (ways : Nat → Way)
    (hways : ∀ k, (ways k).StandsAt host k) (hsorted : positions.Pairwise (· < ·)) :
    (defaultClosing.run (positions.map ways)).head? =
      positions.findSome? fun k => (closingStop? host k).map ((ways k).move host) := by
  have hopened : (positions.map ways).filterMap (Way.read? "</".toList) = positions.filterMap
      fun k => if "</".toList <+: host.drop k then some ((ways k).move host (k + 2)) else none := by
    rw [List.filterMap_map]
    congr 1
    funext k
    exact (hways k).read?_eq _
  have hapart : ((positions.map ways).filterMap (Way.read? "</".toList)).Pairwise
      fun u v => u.index + runLength .space host u.index < v.index := by
    rw [hopened]
    refine hsorted.filterMap _ ?_
    intro i k hik u hu v hv
    simp only [Option.ite_none_right_eq_some, Option.some.injEq] at hu hv
    obtain ⟨-, rfl⟩ := hu
    obtain ⟨hk, rfl⟩ := hv
    exact runLength_lt_of_lt hik hk
  have hstand : ∀ v ∈ (positions.map ways).filterMap (Way.read? "</".toList),
      v.StandsAt host v.index := by
    rw [hopened]
    intro v hv
    obtain ⟨k, -, hk⟩ := List.mem_filterMap.mp hv
    simp only [Option.ite_none_right_eq_some, Option.some.injEq] at hk
    obtain ⟨-, rfl⟩ := hk
    exact (ways k).standsAt_move host (k + 2)
  have hrun : defaultClosing.run (positions.map ways) =
      ((Node.star false (.set .space)).run
        ((positions.map ways).filterMap (Way.read? "</".toList))).filterMap
          (Way.read? "style>".toList) := by
    rw [defaultClosing]
    exact (Node.run_literal _ _ _).trans (Node.run_literal_set _ _ _)
  rw [hrun, Node.run_star_set hstand hapart, hopened, List.filterMap_flatMap,
    List.head?_flatMap, findSome?_filterMap]
  congr 1
  funext k
  unfold closingStop?
  by_cases hk : "</".toList <+: host.drop k
  · rw [if_pos hk, if_pos hk, Option.bind_some,
      filterMap_walk_space ((ways k).standsAt_move host (k + 2))]
    dsimp only
    split <;> rfl
  · rw [if_neg hk, if_neg hk]
    rfl

/-! ## The whole region -/

theorem ClosesAt.unique {host : Text} {i stop stop' : Nat} (h : ClosesAt host i stop)
    (h' : ClosesAt host i stop') : stop = stop' := by
  rw [← closingStop?_eq_some_iff] at h h'
  exact Option.some.inj (h.symm.trans h')

theorem ClosesAt.lt_length {host : Text} {i stop : Nat} (h : ClosesAt host i stop) :
    i < host.length := by
  obtain ⟨blanks, -, hprefix, -⟩ := h
  have hle := hprefix.length_le
  simp only [List.length_append, List.length_drop] at hle
  have htwo : "</".toList.length = 2 := rfl
  omega

/-- The first closing tag at or behind a position. -/
theorem findSome?_closingStop?_eq_some_iff {host : Text} {i : Nat} {f : Nat → Nat → Match}
    {m : Match} :
    ((List.range' i (host.length - i + 1)).findSome? fun k => (closingStop? host k).map (f k)) =
        some m ↔
      ∃ k stop, IsLeast {c | i ≤ c ∧ ∃ stop, ClosesAt host c stop} k ∧ ClosesAt host k stop ∧
        m = f k stop := by
  have hclosed : ∀ k, (closingStop? host k).map (f k) = none ↔ ¬ ∃ stop, ClosesAt host k stop := by
    intro k
    simp only [Option.map_eq_none_iff, ← closingStop?_eq_some_iff, ← Option.isSome_iff_exists]
    simp
  rw [findSome?_range'_eq_some_iff]
  constructor
  · rintro ⟨k, hik, -, hk, hfirst⟩
    obtain ⟨stop, hstop, rfl⟩ := Option.map_eq_some_iff.mp hk
    have hcloses := closingStop?_eq_some_iff.mp hstop
    refine ⟨k, stop, ⟨⟨hik, stop, hcloses⟩, ?_⟩, hcloses, rfl⟩
    rintro c ⟨hic, hc⟩
    exact Nat.le_of_not_lt fun hlt => (hclosed c).mp (hfirst c hic hlt) hc
  · rintro ⟨k, stop, ⟨⟨hik, -⟩, hleast⟩, hcloses, rfl⟩
    refine ⟨k, hik, ?_, ?_, ?_⟩
    · have hlt := hcloses.lt_length
      omega
    · rw [closingStop?_eq_some_iff.mpr hcloses]
      rfl
    · intro j hij hjk
      rw [hclosed]
      exact fun hj => Nat.not_lt_of_le (hleast ⟨hij, hj⟩) hjk

/-- What the default tags capture in a region. -/
def StyleSpan.groups (host : Text) (span : StyleSpan) : List (String × Cursor × Cursor) :=
  [("body", .place host (span.angle + 1), .place host span.closing),
    ("open", .place host span.start, .place host (span.angle + 1))]

theorem head?_run_default (host : Text) (s : Nat) :
    (RegionFinder.default.pattern.run [.start (.place host s)]).head? =
      if "<style".toList <+: host.drop s then
        (angle? host (s + 6)).bind fun g =>
          (List.range' (g + 1) (host.length - (g + 1) + 1)).findSome? fun k =>
            (closingStop? host k).map fun stop =>
              ⟨.place host stop, [], StyleSpan.groups host ⟨s, g, k, stop⟩, []⟩
      else none := by
  have henter : (Way.start (.place host s)).enter.StandsAt host s := ⟨rfl, rfl⟩
  have hrun : RegionFinder.default.pattern.run [.start (.place host s)] =
      defaultClosing.run ((defaultBody.run
        (((defaultOpening.run [(Way.start (.place host s)).enter]).map
          (Way.leave "open")).map Way.enter)).map (Way.leave "body")) := rfl
  rw [hrun, run_defaultOpening henter]
  split
  · cases angle? host (s + 6) with
    | none => rfl
    | some g =>
      let opened : Way := ⟨.place host (g + 1), [.place host (g + 1)],
        [("open", .place host s, .place host (g + 1))], []⟩
      have hopened : opened.StandsAt host (g + 1) := ⟨rfl, rfl⟩
      have hbody := run_defaultBody hopened
      have hclosing := head?_run_defaultClosing host
        (List.range' (g + 1) (host.length - (g + 1) + 1))
        (fun k => (opened.move host k).leave "body") (fun k => ⟨rfl, rfl⟩) List.pairwise_lt_range'
      rw [← Function.comp_def, ← List.map_map, ← hbody] at hclosing
      exact hclosing
  · exact head?_run_defaultClosing host [] _ (Way.standsAt_start host) .nil

/-- The default tags match at a place exactly where the tags of a region stand. -/
theorem matchAt_default_eq_some_iff {host : Text} {s : Nat} {m : Match} :
    RegionFinder.default.pattern.matchAt (.place host s) = some m ↔
      ∃ span : StyleSpan, span.Tagged host ∧ span.start = s ∧
        m = ⟨.place host s, .place host span.stop, span.groups host⟩ := by
  have hmatch : RegionFinder.default.pattern.matchAt (.place host s) =
      if "<style".toList <+: host.drop s then
        (angle? host (s + 6)).bind fun g =>
          (List.range' (g + 1) (host.length - (g + 1) + 1)).findSome? fun k =>
            (closingStop? host k).map fun stop =>
              ⟨.place host s, .place host stop, StyleSpan.groups host ⟨s, g, k, stop⟩⟩
      else none := by
    rw [Node.matchAt, head?_run_default]
    split
    · simp only [Option.map_bind, Function.comp_def, List.map_findSome?, Option.map_map]
    · rfl
  rw [hmatch]
  constructor
  · intro h
    split at h
    · rename_i hopens
      obtain ⟨g, hg, h⟩ := Option.bind_eq_some_iff.mp h
      obtain ⟨k, stop, hleast, hcloses, rfl⟩ := findSome?_closingStop?_eq_some_iff.mp h
      exact ⟨⟨s, g, k, stop⟩, ⟨hopens, angle?_eq_some_iff.mp hg, hleast, hcloses⟩, rfl, rfl⟩
    · simp at h
  · rintro ⟨⟨start, g, k, stop⟩, ⟨hopens, hangle, hleast, hcloses⟩, rfl, rfl⟩
    rw [if_pos hopens, angle?_eq_some_iff.mpr hangle, Option.bind_some]
    exact findSome?_closingStop?_eq_some_iff.mpr ⟨k, stop, hleast, hcloses, rfl⟩

end Excerpt
