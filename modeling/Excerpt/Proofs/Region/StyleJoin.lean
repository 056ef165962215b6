import Excerpt.Proofs.Region.StyleScan

/-! # Style regions of joined texts

Behind a line break the scan goes on as at the start of a text, and what follows a text does not
change the regions that stand in it. -/

namespace Excerpt

/-! ## Texts that stand in a part -/

theorem isPrefix_drop_append {host t : Text} {i : Nat} (h : t <+: host.drop i) (back : Text) :
    t <+: (host ++ back).drop i := by
  rw [List.drop_append]
  exact List.prefix_append_of_prefix h

theorem isPrefix_of_isPrefix_drop_append {host back t : Text} {i : Nat}
    (h : t <+: (host ++ back).drop i) (hlength : i + t.length ≤ host.length) :
    t <+: host.drop i := by
  rw [List.drop_append_of_le_length (by omega)] at h
  exact List.prefix_of_prefix_length_le h (List.prefix_append _ _) (by simp; omega)

/-- A text without breaks stands on one side of a break. -/
theorem isPrefix_drop_of_append_break {host back t : Text} {i : Nat} (ht : '\n' ∉ t)
    (hi : i ≤ host.length) (h : t <+: (host ++ '\n' :: back).drop i) : t <+: host.drop i := by
  refine isPrefix_of_isPrefix_drop_append h (Nat.le_of_not_lt fun hlt => ht ?_)
  rw [List.drop_append_of_le_length hi] at h
  obtain ⟨rest, hrest⟩ := h
  have hbreak : (t ++ rest)[host.length - i]? = some '\n' := by
    rw [hrest, List.getElem?_append_right (by simp)]
    simp
  rw [List.getElem?_append_left (by omega)] at hbreak
  exact List.mem_of_getElem? hbreak

/-! ## Closing tags -/

theorem ClosesAt.append {host : Text} {i stop : Nat} (h : ClosesAt host i stop) (back : Text) :
    ClosesAt (host ++ back) i stop := by
  obtain ⟨blanks, hblank, hprefix, hstop⟩ := h
  exact ⟨blanks, hblank, isPrefix_drop_append hprefix back, hstop⟩

theorem ClosesAt.of_append {host back : Text} {i stop : Nat} (h : ClosesAt (host ++ back) i stop)
    (hstop : stop ≤ host.length) : ClosesAt host i stop := by
  obtain ⟨blanks, hblank, hprefix, rfl⟩ := h
  refine ⟨blanks, hblank, isPrefix_of_isPrefix_drop_append hprefix ?_, rfl⟩
  have htwo : "</".toList.length = 2 := rfl
  have hsix : "style>".toList.length = 6 := rfl
  simp only [List.length_append]
  omega

/-- A closing tag is opened once. -/
theorem ClosesAt.getElem?_ne {host : Text} {i stop j : Nat} (h : ClosesAt host i stop) (hij : i < j)
    (hj : j < stop) : host[j]? ≠ some '<' := by
  obtain ⟨blanks, hblank, ⟨rest, hrest⟩, rfl⟩ := h
  intro hopen
  have htag : "/".toList ++ blanks ++ "style>".toList ++ rest = host.drop (i + 1) := by
    rw [← List.drop_drop, ← hrest]
    rfl
  have hlength : j - (i + 1) < ("/".toList ++ blanks ++ "style>".toList).length := by
    have hone : "/".toList.length = 1 := rfl
    have hsix : "style>".toList.length = 6 := rfl
    simp only [List.length_append]
    omega
  have hmem : ("/".toList ++ blanks ++ "style>".toList)[j - (i + 1)]? = some '<' := by
    calc
      _ = (host.drop (i + 1))[j - (i + 1)]? := by rw [← htag, List.getElem?_append_left hlength]
      _ = host[j]? := by rw [List.getElem?_drop, Nat.add_sub_cancel' hij]
      _ = some '<' := hopen
  rcases List.mem_append.mp (List.mem_of_getElem? hmem) with hslash | hname
  · rcases List.mem_append.mp hslash with hslash | hblanks
    · exact absurd hslash (by decide)
    · exact absurd (List.all_eq_true.mp hblank '<' hblanks) (by decide)
  · exact absurd hname (by decide)

/-- Closing tags do not overlap. -/
theorem ClosesAt.stop_le {host : Text} {i stop j stop' : Nat} (h : ClosesAt host i stop)
    (h' : ClosesAt host j stop') (hij : i < j) : stop ≤ j := by
  obtain ⟨blanks, -, hprefix, -⟩ := h'
  refine Nat.le_of_not_lt fun hlt => h.getElem?_ne hij hlt ?_
  exact (cons_isPrefix_drop_iff.mp hprefix).1

theorem closesAt_append_left (front host : Text) (i stop : Nat) :
    ClosesAt (front ++ host) (front.length + i) (front.length + stop) ↔ ClosesAt host i stop := by
  simp only [ClosesAt, List.drop_length_add_append, Nat.add_assoc, Nat.add_left_cancel_iff]

namespace StyleSpan

/-! ## A text behind the region -/

/-- A region is closed by the first closing tag, so nothing behind that can matter. -/
theorem Tagged.append {host : Text} {span : StyleSpan} (h : span.Tagged host) (back : Text) :
    span.Tagged (host ++ back) where
  opens := isPrefix_drop_append h.opens back
  angle_isLeast := by
    obtain ⟨⟨hangle, hchar⟩, hleast⟩ := h.angle_isLeast
    have hlength := (List.getElem?_eq_some_iff.mp hchar).1
    refine ⟨⟨hangle, by rwa [List.getElem?_append_left hlength]⟩, ?_⟩
    rintro g ⟨hg, hgchar⟩
    refine Nat.le_of_not_lt fun hlt => ?_
    rw [List.getElem?_append_left (hlt.trans hlength)] at hgchar
    exact Nat.not_lt_of_le (hleast ⟨hg, hgchar⟩) hlt
  closing_isLeast := by
    obtain ⟨⟨hclosing, -⟩, hleast⟩ := h.closing_isLeast
    refine ⟨⟨hclosing, span.stop, h.closes.append back⟩, ?_⟩
    rintro c ⟨hc, stop, hcloses⟩
    refine Nat.le_of_not_lt fun hlt => ?_
    have hstop : stop ≤ host.length :=
      (hcloses.stop_le (h.closes.append back) hlt).trans (Nat.le_of_lt h.closes.lt_length)
    exact Nat.not_lt_of_le (hleast ⟨hc, stop, hcloses.of_append hstop⟩) hlt
  closes := h.closes.append back

theorem IsRegion.append {host : Text} {span : StyleSpan} (h : span.IsRegion host) (back : Text) :
    span.IsRegion (host ++ back) where
  tagged := h.tagged.append back
  unguarded := by
    rw [List.take_append_of_le_length (Nat.le_of_lt h.tagged.ordered.start_lt_length)]
    exact h.unguarded

/-! ## A text in front of the region -/

def shift (n : Nat) (span : StyleSpan) : StyleSpan :=
  ⟨n + span.start, n + span.angle, n + span.closing, n + span.stop⟩

theorem isLeast_shift {n i : Nat} {s t : Set Nat} (hs : ∀ j, n + j ∈ s ↔ j ∈ t)
    (hle : ∀ j ∈ s, n ≤ j) : IsLeast s (n + i) ↔ IsLeast t i := by
  refine and_congr (hs i) ⟨fun h j hj => ?_, fun h j hj => ?_⟩
  · have hij := h ((hs j).mpr hj)
    omega
  · obtain ⟨k, rfl⟩ := Nat.exists_eq_add_of_le (hle j hj)
    exact Nat.add_le_add_left (h ((hs k).mp hj)) n

theorem tagged_shift_iff (front host : Text) (span : StyleSpan) :
    (span.shift front.length).Tagged (front ++ host) ↔ span.Tagged host := by
  have hangle : IsLeast {g | front.length + span.start + 6 ≤ g ∧ (front ++ host)[g]? = some '>'}
      (front.length + span.angle) ↔
      IsLeast {g | span.start + 6 ≤ g ∧ host[g]? = some '>'} span.angle := by
    refine isLeast_shift (fun j => ?_) (fun j hj => ?_)
    · rw [Set.mem_ofPred_eq, Set.mem_ofPred_eq, List.getElem?_append_right (Nat.le_add_right _ _),
        Nat.add_sub_cancel_left, Nat.add_assoc, Nat.add_le_add_iff_left]
    · have hle := hj.1
      omega
  have hclosing : IsLeast
      {c | front.length + span.angle < c ∧ ∃ stop, ClosesAt (front ++ host) c stop}
      (front.length + span.closing) ↔
      IsLeast {c | span.angle < c ∧ ∃ stop, ClosesAt host c stop} span.closing := by
    refine isLeast_shift (fun j => and_congr (Nat.add_lt_add_iff_left) ?_) (fun j hj => ?_)
    · constructor
      · rintro ⟨stop, hstop⟩
        obtain ⟨blanks, -, -, heq⟩ := id hstop
        obtain ⟨k, rfl⟩ := Nat.exists_eq_add_of_le (show front.length ≤ stop by omega)
        exact ⟨k, (closesAt_append_left front host j k).mp hstop⟩
      · rintro ⟨stop, hstop⟩
        exact ⟨_, (closesAt_append_left front host j stop).mpr hstop⟩
    · have hlt := hj.1
      omega
  have hcloses := closesAt_append_left front host span.closing span.stop
  constructor
  · rintro ⟨hopens, ha, hc, hs⟩
    refine ⟨?_, hangle.mp ha, hclosing.mp hc, hcloses.mp hs⟩
    rwa [shift, List.drop_length_add_append] at hopens
  · rintro ⟨hopens, ha, hc, hs⟩
    refine ⟨?_, hangle.mpr ha, hclosing.mpr hc, hcloses.mpr hs⟩
    rwa [shift, List.drop_length_add_append]

/-- A region at the start of a text has nothing in front of it, and a line break is no quote. -/
theorem isRegion_shift_iff {front : Text} (hfront : front.getLast? = some '\n') (host : Text)
    (span : StyleSpan) :
    (span.shift front.length).IsRegion (front ++ host) ↔ span.IsRegion host := by
  have hguard : (∀ c, ((front ++ host).take (front.length + span.start)).getLast? = some c →
      c ∉ "\"'`".toList) ↔ ∀ c, (host.take span.start).getLast? = some c → c ∉ "\"'`".toList := by
    rw [List.take_length_add_append, List.getLast?_append, hfront]
    cases (host.take span.start).getLast? with
    | none => simp
    | some c => simp
  constructor
  · rintro ⟨htagged, hunguarded⟩
    exact ⟨(tagged_shift_iff front host span).mp htagged, hguard.mp hunguarded⟩
  · rintro ⟨htagged, hunguarded⟩
    exact ⟨(tagged_shift_iff front host span).mpr htagged, hguard.mpr hunguarded⟩

theorem IsRegion.exists_shift {front host : Text} {span : StyleSpan}
    (hfront : front.getLast? = some '\n') (h : span.IsRegion (front ++ host))
    (hstart : front.length ≤ span.start) :
    ∃ other : StyleSpan, span = other.shift front.length ∧ other.IsRegion host := by
  have hordered := h.tagged.ordered
  have hangle := hordered.start_lt_angle
  have hclosing := hordered.angle_lt_closing
  have hstop := hordered.closing_lt_stop
  let other : StyleSpan := ⟨span.start - front.length, span.angle - front.length,
    span.closing - front.length, span.stop - front.length⟩
  have hother : span = other.shift front.length := by
    rw [shift, Nat.add_sub_cancel' hstart, Nat.add_sub_cancel' (by omega),
      Nat.add_sub_cancel' (by omega), Nat.add_sub_cancel' (by omega)]
  rw [hother] at h
  exact ⟨other, hother, (isRegion_shift_iff hfront host other).mp h⟩

end StyleSpan

namespace StyleScan

theorem append_left {front host : Text} {p : Nat} {spans : List StyleSpan}
    (hfront : front.getLast? = some '\n') (h : StyleScan host p spans) :
    StyleScan (front ++ host) (front.length + p) (spans.map (StyleSpan.shift front.length)) := by
  induction h with
  | done hnone =>
    refine .done fun span hspan => Nat.lt_of_not_le fun hle => ?_
    obtain ⟨other, rfl, hother⟩ := hspan.exists_shift hfront (by omega)
    have hlt := hnone other hother
    simp only [StyleSpan.shift] at hle
    omega
  | @found p span rest hfirst _ ih =>
    have hregion := (StyleSpan.isRegion_shift_iff hfront host span).mpr hfirst.isRegion
    refine .found
      ⟨hregion, ⟨Nat.add_le_add_left hfirst.start_isLeast.1.1 _, _, hregion, rfl⟩, ?_⟩ ih
    rintro s ⟨hs, found, hfound, rfl⟩
    obtain ⟨other, rfl, hother⟩ := hfound.exists_shift hfront (by omega)
    simp only [StyleSpan.shift] at hs ⊢
    exact Nat.add_le_add_left
      (hfirst.start_isLeast.2 ⟨Nat.le_of_add_le_add_left hs, other, hother, rfl⟩) _

theorem of_mem {host : Text} {p : Nat} {spans : List StyleSpan} {span : StyleSpan}
    (h : StyleScan host p spans) (hspan : span ∈ spans) : span.IsRegion host ∧ p ≤ span.start := by
  induction h with
  | done => simp at hspan
  | found hfirst _ ih =>
    have hle := hfirst.start_isLeast.1.1
    rcases List.mem_cons.mp hspan with rfl | hspan
    · exact ⟨hfirst.isRegion, hle⟩
    · have hstop := hfirst.isRegion.tagged.ordered.start_lt_stop
      have hrest := (ih hspan).2
      exact ⟨(ih hspan).1, by omega⟩

end StyleScan

/-! ## The scan of a joined text -/

/-- Every `<style` at or behind a position stands behind a quote or in one of the regions. -/
def StyleSpan.Cover (host : Text) (p : Nat) (spans : List StyleSpan) : Prop :=
  ∀ i, p ≤ i → "<style".toList <+: host.drop i →
    (host.take i).getLast?.any "\"'`".toList.contains ∨
      ∃ span ∈ spans, span.start ≤ i ∧ i < span.stop

/-- A region of the joined text that starts in its first part starts in a region of that part. -/
theorem StyleSpan.Cover.exists_mem {first second : Text} {p : Nat} {spans : List StyleSpan}
    {span : StyleSpan} (hcover : StyleSpan.Cover first p spans)
    (hspan : span.IsRegion (first ++ '\n' :: second)) (hp : p ≤ span.start)
    (hstart : span.start ≤ first.length) :
    ∃ other ∈ spans, other.start ≤ span.start ∧ span.start < other.stop := by
  have hopens := isPrefix_drop_of_append_break (by decide) hstart hspan.tagged.opens
  rcases hcover span.start hp hopens with hguarded | hmem
  · obtain ⟨c, hlast, hc⟩ := (Option.any_eq_true _ _).mp hguarded
    have hunguarded := hspan.unguarded c
    rw [List.take_append_of_le_length hstart] at hunguarded
    exact absurd (List.contains_iff_mem.mp hc) (hunguarded hlast)
  · exact hmem

/-- Where nothing is left open in front of the break, the scan finds the regions of the first part
and then those behind the break. -/
theorem StyleScan.append_break {first second : Text} {p : Nat} {spans others : List StyleSpan}
    (h : StyleScan first p spans) (hp : p ≤ first.length) (hcover : StyleSpan.Cover first p spans)
    (hothers : StyleScan (first ++ '\n' :: second) (first.length + 1) others) :
    StyleScan (first ++ '\n' :: second) p (spans ++ others) := by
  induction h with
  | done =>
    refine hothers.of_no_region (by omega) fun span hspan hle => ?_
    refine Nat.lt_of_not_le fun hlength => ?_
    obtain ⟨other, hother, -⟩ := hcover.exists_mem hspan hle hlength
    simp at hother
  | @found p span rest hfirst hrest ih =>
    have hordered := hfirst.isRegion.tagged.ordered
    have hlength := hordered.start_lt_length
    have hregion := hfirst.isRegion.append ('\n' :: second)
    refine .found ⟨hregion, ⟨hfirst.start_isLeast.1.1, _, hregion, rfl⟩, ?_⟩
      (ih hordered.stop_le_length ?_)
    · rintro s ⟨hps, found, hfound, rfl⟩
      refine Nat.le_of_not_lt fun hlt => ?_
      -- it would start in a region of the first part, but none of them starts that early
      obtain ⟨other, hother, hstart, -⟩ := hcover.exists_mem hfound hps (by omega)
      have hle : span.start ≤ other.start := by
        rcases List.mem_cons.mp hother with rfl | hother
        · exact Nat.le_refl _
        · exact (Nat.le_of_lt hordered.start_lt_stop).trans (hrest.of_mem hother).2
      omega
    · intro i hi hopens
      refine (hcover i ?_ hopens).imp_right ?_
      · have hle := hfirst.start_isLeast.1.1
        have hstop := hordered.start_lt_stop
        omega
      · rintro ⟨other, hother, hstart, hstop⟩
        rcases List.mem_cons.mp hother with rfl | hother
        · omega
        · exact ⟨other, hother, hstart, hstop⟩

/-! ## The snippets of a joined text -/

/-- A snippet behind some more bytes. -/
def Snippet.shift (bytes : Nat) (s : Snippet) : Snippet :=
  { s with offset := bytes + s.offset }

theorem StyleSpan.snippet_append {host : Text} {span : StyleSpan} (h : span.Ordered host)
    (back : Text) : span.snippet (host ++ back) = span.snippet host := by
  have hangle := h.start_lt_angle
  have hclosing := h.angle_lt_closing
  have hstop := h.closing_lt_stop
  have hlength := h.stop_le_length
  have hslice : ∀ i j, i ≤ j → j ≤ host.length →
      ((host ++ back).drop i).take (j - i) = (host.drop i).take (j - i) := by
    intro i j hij hj
    rw [List.drop_append_of_le_length (by omega), List.take_append_of_le_length (by simp; omega)]
  rw [snippet, snippet, openTag, openTag, hslice _ _ (by omega) (by omega), body, body,
    hslice _ _ (by omega) (by omega), List.take_append_of_le_length (by omega)]

theorem StyleSpan.snippet_shift (front host : Text) (span : StyleSpan) :
    (span.shift front.length).snippet (front ++ host) =
      (span.snippet host).shift front.byteLength := by
  have hslice : ∀ i j, ((front ++ host).drop (front.length + i)).take
      (front.length + j - (front.length + i)) = (host.drop i).take (j - i) := by
    intro i j
    rw [List.drop_length_add_append, Nat.add_sub_add_left]
  simp only [snippet, Snippet.shift, openTag, body, shift, Nat.add_assoc, hslice,
    List.take_length_add_append, Text.byteLength_append]

namespace RegionFinder

/-- Nothing is left open in a text: each `<style` of it stands in a region or behind a character of
the guard. -/
def Settles (finder : RegionFinder) (host : Text) : Prop :=
  ∀ i < host.length, "<style".toList <+: host.drop i →
    (host.take i).getLast?.any finder.guard.contains ∨
      ∃ r ∈ finder.regions host, r.start.index ≤ i ∧ i < r.stop.index

instance (finder : RegionFinder) (host : Text) : Decidable (finder.Settles host) :=
  inferInstanceAs (Decidable (∀ i < host.length, "<style".toList <+: host.drop i →
    (host.take i).getLast?.any finder.guard.contains ∨
      ∃ r ∈ finder.regions host, r.start.index ≤ i ∧ i < r.stop.index))

theorem Settles.cover {host : Text} {spans : List StyleSpan} (h : default.Settles host)
    (hregions : default.regions host = spans.map (StyleSpan.region host)) :
    StyleSpan.Cover host 0 spans := by
  intro i _ hopens
  have hi : i < host.length := by
    have hle := hopens.length_le
    have hsix : "<style".toList.length = 6 := rfl
    rw [List.length_drop] at hle
    omega
  refine (h i hi hopens).imp_right ?_
  rintro ⟨r, hr, hstart, hstop⟩
  rw [hregions] at hr
  obtain ⟨span, hspan, rfl⟩ := List.mem_map.mp hr
  exact ⟨span, hspan, hstart, hstop⟩

theorem snippets_default_append_break {first : Text} (h : default.Settles first) (second : Text) :
    default.snippets (first ++ '\n' :: second) =
      default.snippets first ++
        (default.snippets second).map (Snippet.shift (Text.byteLength (first ++ ['\n']))) := by
  obtain ⟨spans, hspans, hregions⟩ := exists_styleScan_regions first
  obtain ⟨others, hothers, -⟩ := exists_styleScan_regions second
  have hjoined : first ++ '\n' :: second = (first ++ ['\n']) ++ second := by simp
  have hlast : (first ++ ['\n']).getLast? = some '\n' := by simp
  have hshifted := hothers.append_left hlast
  rw [← hjoined, Nat.add_zero, List.length_append, List.length_singleton] at hshifted
  have hscan := hspans.append_break (Nat.zero_le _) (h.cover hregions) hshifted
  rw [snippets_default hscan, snippets_default hspans, snippets_default hothers, List.map_append,
    List.map_map, List.map_map]
  congr 1
  · exact List.map_congr_left fun span hspan =>
      span.snippet_append (hspans.of_mem hspan).1.tagged.ordered _
  · refine List.map_congr_left fun span _ => ?_
    have hshift := span.snippet_shift (first ++ ['\n']) second
    rwa [← hjoined, List.length_append, List.length_singleton] at hshift

end RegionFinder

end Excerpt
