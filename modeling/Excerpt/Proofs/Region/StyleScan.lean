import Excerpt.Proofs.Region.PlainScan
import Excerpt.Proofs.Region.StyleTags

/-! # Scanning for style regions

The default tags find what a plain scan finds: from left to right always the first region whose
tags stand in the text and have no quote in front of them. -/

namespace Excerpt

open Pattern

namespace StyleSpan

/-- The tags stand in the text, and the character in front of them, if there is one, is no quote. -/
structure IsRegion (host : Text) (span : StyleSpan) : Prop where
  tagged : span.Tagged host
  unguarded : ∀ c, (host.take span.start).getLast? = some c → c ∉ "\"'`".toList

/-- The region that starts first at or behind a position. -/
structure IsFirst (host : Text) (p : Nat) (span : StyleSpan) : Prop where
  isRegion : span.IsRegion host
  start_isLeast : IsLeast {s | p ≤ s ∧ ∃ other : StyleSpan, other.IsRegion host ∧ other.start = s}
    span.start

/-- From `<` up to the angle bracket. -/
def openTag (host : Text) (span : StyleSpan) : Text :=
  (host.drop span.start).take (span.angle + 1 - span.start)

/-- From behind the angle bracket up to the closing tag. -/
def body (host : Text) (span : StyleSpan) : Text :=
  (host.drop (span.angle + 1)).take (span.closing - (span.angle + 1))

def snippet (host : Text) (span : StyleSpan) : Snippet :=
  ⟨span.openTag host, span.body host, Text.byteLength (host.take span.start)⟩

def region (host : Text) (span : StyleSpan) : Region :=
  ⟨.place host span.start, .place host span.stop, span.openTag host, span.body host⟩

end StyleSpan

/-- The regions of a text from a position on. Behind a region the scan goes on at its end, and it is
done when no region starts any more. -/
inductive StyleScan (host : Text) : Nat → List StyleSpan → Prop where
  | done {p : Nat} (h : ∀ span : StyleSpan, span.IsRegion host → span.start < p) :
      StyleScan host p []
  | found {p : Nat} {span : StyleSpan} {rest : List StyleSpan} (hfirst : span.IsFirst host p)
      (hrest : StyleScan host span.stop rest) : StyleScan host p (span :: rest)

/-! ## One region at a place, one scan of a text -/

namespace StyleSpan

theorem Tagged.unique {host : Text} {span other : StyleSpan} (h : span.Tagged host)
    (h' : other.Tagged host) (hstart : span.start = other.start) : span = other := by
  obtain ⟨start, angle, closing, stop⟩ := span
  obtain ⟨start', angle', closing', stop'⟩ := other
  obtain rfl : start = start' := hstart
  obtain rfl : angle = angle' := h.angle_isLeast.unique h'.angle_isLeast
  obtain rfl : closing = closing' := h.closing_isLeast.unique h'.closing_isLeast
  obtain rfl : stop = stop' := h.closes.unique h'.closes
  rfl

/-- The marks of a region follow each other within the text. -/
structure Ordered (host : Text) (span : StyleSpan) : Prop where
  start_lt_angle : span.start < span.angle
  angle_lt_closing : span.angle < span.closing
  closing_lt_stop : span.closing < span.stop
  stop_le_length : span.stop ≤ host.length

theorem Tagged.ordered {host : Text} {span : StyleSpan} (h : span.Tagged host) :
    span.Ordered host where
  start_lt_angle := by
    have hangle := h.angle_isLeast.1.1
    omega
  angle_lt_closing := h.closing_isLeast.1.1
  closing_lt_stop := by
    obtain ⟨blanks, -, -, hstop⟩ := h.closes
    omega
  stop_le_length := by
    have hlt := h.closes.lt_length
    obtain ⟨blanks, -, hprefix, hstop⟩ := h.closes
    have hle := hprefix.length_le
    have htwo : "</".toList.length = 2 := rfl
    have hsix : "style>".toList.length = 6 := rfl
    simp only [List.length_append, List.length_drop] at hle
    omega

theorem Ordered.start_lt_length {host : Text} {span : StyleSpan} (h : span.Ordered host) :
    span.start < host.length := by
  have hangle := h.start_lt_angle
  have hclosing := h.angle_lt_closing
  have hstop := h.closing_lt_stop
  have hlength := h.stop_le_length
  omega

theorem Ordered.start_lt_stop {host : Text} {span : StyleSpan} (h : span.Ordered host) :
    span.start < span.stop :=
  (h.start_lt_angle.trans h.angle_lt_closing).trans h.closing_lt_stop

/-- The match that the default tags have where a region stands. -/
def toMatch (host : Text) (span : StyleSpan) : Match :=
  ⟨.place host span.start, .place host span.stop, span.groups host⟩

theorem ofMatch?_toMatch (host : Text) (span : StyleSpan) :
    Region.ofMatch? (span.toMatch host) = some (span.region host) :=
  rfl

theorem Tagged.behind_toMatch {host : Text} {span : StyleSpan} (h : span.Tagged host) :
    (span.toMatch host).behind = span.stop := by
  have hne : (span.toMatch host).isEmpty = false := by
    simpa [Match.isEmpty, toMatch, Cursor.place] using Nat.ne_of_lt h.ordered.start_lt_stop
  rw [Match.behind, hne]
  rfl

theorem IsFirst.unique {host : Text} {p : Nat} {span other : StyleSpan} (h : span.IsFirst host p)
    (h' : other.IsFirst host p) : span = other :=
  h.isRegion.tagged.unique h'.isRegion.tagged (h.start_isLeast.unique h'.start_isLeast)

end StyleSpan

namespace StyleScan

/-- A text has one scan from a position. -/
theorem unique {host : Text} {p : Nat} {spans others : List StyleSpan} (h : StyleScan host p spans)
    (h' : StyleScan host p others) : spans = others := by
  induction h generalizing others with
  | done hnone =>
    cases h' with
    | done => rfl
    | found hfirst =>
      have hlt := hnone _ hfirst.isRegion
      have hle := hfirst.start_isLeast.1.1
      omega
  | found hfirst _ ih =>
    cases h' with
    | done hnone =>
      have hlt := hnone _ hfirst.isRegion
      have hle := hfirst.start_isLeast.1.1
      omega
    | found hfirst' hrest' =>
      obtain rfl := hfirst.unique hfirst'
      rw [ih hrest']

/-- A part of the text in which no region starts can be passed over. -/
theorem of_no_region {host : Text} {p q : Nat} {spans : List StyleSpan} (hpq : p ≤ q)
    (hnone : ∀ span : StyleSpan, span.IsRegion host → p ≤ span.start → q ≤ span.start)
    (h : StyleScan host q spans) : StyleScan host p spans := by
  cases h with
  | done hdone =>
    refine .done fun span hspan => ?_
    have hlt := hdone span hspan
    have hle := hnone span hspan
    omega
  | found hfirst hrest =>
    refine .found
      ⟨hfirst.isRegion, ⟨hpq.trans hfirst.start_isLeast.1.1, _, hfirst.isRegion, rfl⟩, ?_⟩
      hrest
    rintro s ⟨hps, other, hother, rfl⟩
    exact hfirst.start_isLeast.2 ⟨hnone other hother hps, other, hother, rfl⟩

end StyleScan

/-! ## The finder of the default tags -/

namespace RegionFinder

/-- The default tags match without a guard exactly where a region starts. -/
theorem matchesAt_default_iff {host : Text} {s : Nat} {m : Match} :
    default.MatchesAt host s m ↔
      ∃ span : StyleSpan, span.IsRegion host ∧ span.start = s ∧ m = span.toMatch host := by
  constructor
  · rintro ⟨-, hmatch, hguard⟩
    obtain ⟨span, hspan, rfl, rfl⟩ := matchAt_default_eq_some_iff.mp hmatch
    exact ⟨span, ⟨hspan, hguard⟩, rfl, rfl⟩
  · rintro ⟨span, hregion, rfl, rfl⟩
    exact ⟨Nat.le_of_lt hregion.tagged.ordered.start_lt_length,
      matchAt_default_eq_some_iff.mpr ⟨span, hregion.tagged, rfl, rfl⟩, hregion.unguarded⟩

/-- A plain scan with the default tags is a scan for style regions. -/
theorem PlainScan.exists_styleScan {host : Text} {p : Nat} {ms : List Match}
    (h : default.PlainScan host p ms) :
    ∃ spans, StyleScan host p spans ∧ ms = spans.map (StyleSpan.toMatch host) := by
  induction h with
  | done hnone =>
    refine ⟨[], .done ?_, rfl⟩
    intro span hspan
    exact hnone _ _ (matchesAt_default_iff.mpr ⟨span, hspan, rfl, rfl⟩)
  | found hmatch hleast _ ih =>
    obtain ⟨spans, hscan, rfl⟩ := ih
    obtain ⟨span, hregion, rfl, rfl⟩ := matchesAt_default_iff.mp hmatch
    rw [hregion.tagged.behind_toMatch] at hscan
    refine ⟨span :: spans, .found ⟨hregion, ⟨hleast.1.1, span, hregion, rfl⟩, ?_⟩ hscan, rfl⟩
    rintro s ⟨hle, other, hother, rfl⟩
    exact hleast.2 ⟨hle, _, matchesAt_default_iff.mpr ⟨other, hother, rfl, rfl⟩⟩

theorem exists_styleScan_regions (host : Text) :
    ∃ spans, StyleScan host 0 spans ∧ default.regions host = spans.map (StyleSpan.region host) := by
  have hcaptures : default.CapturesTags host :=
    capturesTags_of_isTagSequence (by decide) _
  obtain ⟨ms, hscan, hregions⟩ := exists_plainScan_regions hcaptures
  obtain ⟨spans, hspans, rfl⟩ := hscan.exists_styleScan
  refine ⟨spans, hspans, ?_⟩
  simp only [List.forall₂_map_left_iff, StyleSpan.ofMatch?_toMatch, Option.some.injEq] at hregions
  rw [← List.forall₂_map_left_iff, List.forall₂_eq_eq_eq] at hregions
  exact hregions.symm

theorem snippet_region (host : Text) (span : StyleSpan) :
    (span.region host).snippet = span.snippet host := by
  rw [Region.snippet, StyleSpan.region, Cursor.offset_place]
  rfl

theorem snippets_default {host : Text} {spans : List StyleSpan} (h : StyleScan host 0 spans) :
    default.snippets host = spans.map (StyleSpan.snippet host) := by
  obtain ⟨found, hfound, hregions⟩ := exists_styleScan_regions host
  obtain rfl := h.unique hfound
  rw [snippets, hregions, List.map_map]
  exact List.map_congr_left fun span _ => snippet_region host span

/-- The default tags find the regions of the scan, no others, and in its order. -/
theorem ofTags_default_snippets_eq_iff :
    ∃ finder, RegionFinder.ofTags {} = .ok finder ∧ ∀ host snippets,
      finder.snippets host = snippets ↔
        ∃ spans, StyleScan host 0 spans ∧ snippets = spans.map (StyleSpan.snippet host) := by
  refine ⟨default, ofTags_default, fun host snippets => ?_⟩
  constructor
  · rintro rfl
    obtain ⟨spans, hscan, -⟩ := exists_styleScan_regions host
    exact ⟨spans, hscan, snippets_default hscan⟩
  · rintro ⟨spans, hscan, rfl⟩
    exact snippets_default hscan

end RegionFinder

end Excerpt
