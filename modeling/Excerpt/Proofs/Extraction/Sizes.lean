import Excerpt.Proofs.Extraction.Tracing
import Excerpt.Proofs.Region.Searches

/-! # The numbers of a line map

Whatever the tags match, the numbers of a line map are not greater than about twice the bytes of
its host text. -/

namespace Excerpt

open Pattern Text

/-! ## One snippet -/

theorem Text.breaks_le_byteLength (t : Text) : t.breaks ≤ t.byteLength :=
  Nat.le_trans List.count_le_length t.length_le_byteLength

theorem Text.breaks_lt_byteLength {t : Text} (h : t.isBlank = false) :
    t.breaks < t.byteLength := by
  refine Nat.lt_of_lt_of_le (Nat.lt_of_le_of_ne List.count_le_length ?_) t.length_le_byteLength
  intro hall
  have hblank : t.isBlank := by
    apply List.all_eq_true.mpr
    intro c hc
    rw [← List.count_eq_length.mp hall c hc]
    decide
  rw [hblank] at h
  contradiction

namespace Snippet

theorem lineCount_le {s : Snippet} (h : s.isKept) : s.lineCount ≤ s.body.byteLength := by
  obtain ⟨lead, trail, hparts⟩ := exists_frameParts s.body
  have hbody := hparts.breaks_eq
  have hbreaks := breaks_lt_byteLength (by simpa [isKept] using h : s.body.isBlank = false)
  rw [lineCount]
  omega

theorem indentColumns_block_le (s : Snippet) : s.block.indentColumns ≤ s.body.byteLength := by
  obtain ⟨lead, trail, hparts⟩ := exists_frameParts s.body
  have hbytes := congrArg byteLength hparts.body_eq
  rw [byteLength_append, byteLength_append] at hbytes
  have hindent := indentColumns_reindent_le_length (frame s.body).text
  have hlength := (frame s.body).text.length_le_byteLength
  rw [block]
  omega

/-- A line of a snippet is at most as far down as its body has breaks, counted from anywhere. -/
theorem hostLine_le {s : Snippet} {host : Text} {origin : LineOrigin}
    (h : origin ∈ s.origins host) :
    origin.hostLine ≤ 1 + host.breaks + s.body.breaks ∧
      origin.indentColumns = s.block.indentColumns := by
  obtain ⟨j, hj⟩ := List.mem_iff_getElem?.mp h
  obtain ⟨hlt, rfl⟩ := getElem?_origins hj
  obtain ⟨lead, trail, hparts⟩ := exists_frameParts s.body
  have hbody := hparts.breaks_eq
  have hall := breaksBefore_append host []
  rw [List.append_nil] at hall
  have hbefore := breaksBefore_mono host (Nat.min_le_right s.bodyOffset host.byteLength)
  simp only [firstHostLine, and_true]
  rw [lineCount] at hlt
  omega

end Snippet

/-! ## All snippets -/

theorem RegionFinder.body_le_of_find {finder : RegionFinder} {c : Cursor} {r : Region}
    (h : finder.find c = some r) : r.start.offset + r.body.byteLength ≤ r.stop.offset := by
  obtain ⟨m, hsearch, hregion⟩ := Option.bind_eq_some_iff.mp h
  obtain ⟨hstart, hstop, -, hbody⟩ := Region.ofMatch?_eq_some_iff.mp hregion
  obtain ⟨⟨bodyStart, bodyStop⟩, hgroup, hbody⟩ := Option.map_eq_some_iff.mp hbody
  have hwithin := Node.within_of_search hsearch hgroup
  have hfront : m.start.offset ≤ bodyStart.offset := hwithin.start_leads.offset_le
  have hreads : bodyStop.offset = bodyStart.offset + (bodyStart.upTo bodyStop).byteLength :=
    hwithin.leads.reads_upTo.offset_eq
  have hback : bodyStop.offset ≤ m.stop.offset := hwithin.leads_stop.offset_le
  rw [show bodyStart.upTo bodyStop = r.body from hbody] at hreads
  rw [hstart, hstop]
  omega

/-- The number of bytes of several bodies. -/
def Snippet.totalBytes : List Snippet → Nat
  | [] => 0
  | s :: rest => s.body.byteLength + totalBytes rest

/-- Bodies that lie apart have no more bytes than there are from the first one on. -/
theorem totalBytes_le {regions : List Region} {front total : Nat}
    (hapart : regions.Pairwise fun r next => r.stop.offset ≤ next.start.offset)
    (hinside : ∀ r ∈ regions, front ≤ r.start.offset ∧
      r.start.offset + r.body.byteLength ≤ r.stop.offset ∧ r.stop.offset ≤ total)
    (hfront : front ≤ total) :
    front + Snippet.totalBytes (regions.map Region.snippet) ≤ total := by
  induction regions generalizing front with
  | nil => exact hfront
  | cons r rest ih =>
    obtain ⟨hfirst, hrest⟩ := List.pairwise_cons.mp hapart
    obtain ⟨hstart, hbody, hstop⟩ := hinside r List.mem_cons_self
    have hothers : r.stop.offset + Snippet.totalBytes (rest.map Region.snippet) ≤ total := by
      apply ih hrest _ hstop
      intro next hnext
      exact ⟨hfirst next hnext, (hinside next (List.mem_cons_of_mem r hnext)).2⟩
    have hbytes : r.snippet.body.byteLength = r.body.byteLength := rfl
    rw [List.map_cons, Snippet.totalBytes, hbytes]
    omega

theorem totalLines_filter_isKept_le (snippets : List Snippet) :
    Snippet.totalLines (snippets.filter Snippet.isKept) ≤
      Snippet.totalBytes snippets := by
  induction snippets with
  | nil => exact Nat.le_refl 0
  | cons s rest ih =>
    rw [Snippet.totalBytes]
    by_cases hkept : s.isKept
    · have hlines := Snippet.lineCount_le hkept
      rw [List.filter_cons_of_pos hkept, Snippet.totalLines]
      omega
    · rw [List.filter_cons_of_neg hkept]
      omega

/-- The bodies of all regions lie apart in the host text. -/
theorem RegionFinder.totalBytes_snippets_le (finder : RegionFinder) (host : Text) :
    Snippet.totalBytes (finder.snippets host) ≤ host.byteLength ∧
      ∀ s ∈ finder.snippets host, s.body.byteLength ≤ host.byteLength := by
  obtain ⟨places, hthrough⟩ := finder.exists_searchesThrough host
  have hinside : ∀ r ∈ finder.regions host,
      r.start.offset + r.body.byteLength ≤ r.stop.offset ∧ r.stop.offset ≤ host.byteLength := by
    intro r hr
    obtain ⟨c, hc, hfind⟩ := hthrough.exists_find_of_mem (finder.findsAhead host) r hr
    have hstop := ((finder.findsAhead host).next hc hfind).2.1
    exact ⟨body_le_of_find hfind, hstop.offset_le_byteLength⟩
  refine ⟨?_, ?_⟩
  · have hbytes := totalBytes_le hthrough.spans_apart
      (fun r hr => ⟨Nat.zero_le _, hinside r hr⟩) (Nat.zero_le _)
    rwa [Nat.zero_add] at hbytes
  · intro s hs
    obtain ⟨r, hr, rfl⟩ := List.mem_map.mp hs
    have hbounds := hinside r hr
    simp only [Region.snippet]
    omega

/-- There are no more lines than bytes in the host text, none is much further down and none is
indented further. -/
theorem Processor.synthesize_sizes (p : Processor) (host : Text) :
    (p.synthesize host).origins.length ≤ host.byteLength ∧
      ∀ origin ∈ (p.synthesize host).origins,
        origin.hostLine ≤ 1 + 2 * host.byteLength ∧ origin.indentColumns ≤ host.byteLength := by
  obtain ⟨htotal, hbody⟩ := p.finder.totalBytes_snippets_le host
  rw [synthesize_eq]
  refine ⟨?_, ?_⟩
  · rw [Snippet.length_flatMap_origins]
    exact Nat.le_trans (totalLines_filter_isKept_le _) htotal
  · intro origin horigin
    obtain ⟨s, hs, horigin⟩ := List.mem_flatMap.mp horigin
    obtain ⟨hline, hcolumns⟩ := Snippet.hostLine_le horigin
    have hbytes := hbody s (List.mem_filter.mp hs).1
    have hhost := host.breaks_le_byteLength
    have hbreaks := s.body.breaks_le_byteLength
    have hindent := s.indentColumns_block_le
    omega

end Excerpt
