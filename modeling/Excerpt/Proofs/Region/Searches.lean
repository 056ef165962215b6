import Excerpt.Region
import Excerpt.Proofs.Pattern.Walk
import Excerpt.Proofs.Text.Bytes

/-! # One search after the other

The regions of a text are found by one search after the other. As long as nothing is found in front
of the place of a search, the next one starts further on, so the searches come to an end and the
regions lie apart. -/

namespace Excerpt

open Pattern

/-! ## Places of one text -/

namespace Pattern.Cursor

variable {host : Text} {c d : Cursor}

/-- The places of a text are told by their positions. -/
theorem Leads.eq_place (h : (start host).Leads c) : c = place host c.index := by
  obtain ⟨taken, hindex, hbefore, hafter⟩ := h
  obtain ⟨index, before, after⟩ := c
  simp only [start, Nat.zero_add, List.append_nil] at hindex hbefore hafter
  subst hindex hbefore hafter
  simp [place]

theorem Leads.index_le (h : c.Leads d) : c.index ≤ d.index := by
  obtain ⟨taken, htaken⟩ := h
  rw [htaken.index_eq]
  exact Nat.le_add_right _ _

theorem Leads.index_le_length (h : (start host).Leads c) : c.index ≤ host.length := by
  obtain ⟨taken, hindex, -, hafter⟩ := h
  simp only [start, Nat.zero_add] at hindex hafter
  rw [hindex, hafter, List.length_append]
  exact Nat.le_add_right _ _

theorem Leads.isBoundary_offset (h : (start host).Leads c) : host.isBoundary c.offset = true := by
  have hsplit := Text.isBoundary_append (host.take c.index) (host.drop c.index)
  rw [List.take_append_drop] at hsplit
  rw [h.eq_place, offset_place]
  exact hsplit

theorem Leads.offset_le_byteLength (h : (start host).Leads c) : c.offset ≤ host.byteLength := by
  rw [h.eq_place, offset_place]
  exact Text.byteLength_le_of_isPrefix (List.take_prefix _ _)

theorem offset_le_of_index_le (hc : (start host).Leads c) (hd : (start host).Leads d)
    (h : c.index ≤ d.index) : c.offset ≤ d.offset := by
  rw [hc.eq_place, hd.eq_place, offset_place, offset_place]
  exact Text.byteLength_le_of_isPrefix (List.take_prefix_take_left h)

/-- A place behind another one has more bytes in front of it. -/
theorem offset_lt_of_index_lt (hc : (start host).Leads c) (hd : (start host).Leads d)
    (h : c.index < d.index) : c.offset < d.offset := by
  have hsplit : host.take d.index =
      host.take c.index ++ (host.drop c.index).take (d.index - c.index) := by
    rw [← List.take_add, Nat.add_sub_cancel' (Nat.le_of_lt h)]
  have hlength : ((host.drop c.index).take (d.index - c.index)).length = d.index - c.index := by
    have hle := hd.index_le_length
    rw [List.length_take, List.length_drop]
    omega
  have hbytes := Text.length_le_byteLength ((host.drop c.index).take (d.index - c.index))
  rw [hc.eq_place, hd.eq_place, offset_place, offset_place, hsplit, Text.byteLength_append]
  omega

theorem leads_of_mem_start (host : Text) : ∀ c ∈ some (start host), (start host).Leads c := by
  intro c hc
  obtain rfl := Option.some.inj hc
  exact .refl _

/-- The position of a place. Where there is no place any more, it is one behind the end. -/
def position (host : Text) : Option Cursor → Nat
  | none => host.length + 1
  | some c => c.index

theorem position_next? (h : (start host).Leads c) : position host c.next? = c.index + 1 := by
  rw [h.eq_place]
  rcases Nat.eq_or_lt_of_le h.index_le_length with heq | hlt
  · simp [place, next?, heq, position]
  · rw [next?_place hlt]
    rfl

theorem leads_of_mem_next? (h : (start host).Leads c) : ∀ d ∈ c.next?, (start host).Leads d :=
  fun _ hd => h.trans (leads_of_next? hd)

end Pattern.Cursor

namespace Region

variable {host : Text} {r : Region}

/-- The position where the next region can start at the earliest. -/
def behind (r : Region) : Nat :=
  if r.isEmpty then r.stop.index + 1 else r.stop.index

theorem stop_le_behind (r : Region) : r.stop.index ≤ r.behind := by
  unfold behind
  split <;> omega

theorem start_lt_behind (h : r.start.Leads r.stop) : r.start.index < r.behind := by
  have hle := h.index_le
  unfold behind
  split
  · omega
  · rename_i hempty
    have hne : r.start.index ≠ r.stop.index := by simpa [isEmpty] using hempty
    omega

theorem position_resume? (h : (Cursor.start host).Leads r.stop) :
    Cursor.position host r.resume? = r.behind := by
  unfold resume? behind
  split
  · exact Cursor.position_next? h
  · rfl

theorem leads_of_mem_resume? (h : (Cursor.start host).Leads r.stop) :
    ∀ d ∈ r.resume?, (Cursor.start host).Leads d := by
  unfold resume?
  split
  · exact Cursor.leads_of_mem_next? h
  · intro d hd
    obtain rfl := Option.some.inj hd
    exact h

end Region

/-! ## Searches -/

/-- The searches for regions from a place on, if there is a place to search from: the places that
are searched from, and the regions that are found. Nothing here counts the searches. -/
inductive Searches (find : Cursor → Option Region) (guard : Text) :
    Option Cursor → List Cursor → List Region → Prop where
  | ended : Searches find guard none [] []
  | nothing {c : Cursor} (h : find c = none) : Searches find guard (some c) [c] []
  | guarded {c : Cursor} {r : Region} {places : List Cursor} {regions : List Region}
      (h : find c = some r) (hguard : r.isGuarded guard = true)
      (hrest : Searches find guard r.start.next? places regions) :
      Searches find guard (some c) (c :: places) regions
  | found {c : Cursor} {r : Region} {places : List Cursor} {regions : List Region}
      (h : find c = some r) (hguard : r.isGuarded guard = false)
      (hrest : Searches find guard r.resume? places regions) :
      Searches find guard (some c) (c :: places) (r :: regions)

/-- The regions of so many searches from a place on, if there is one. -/
def scanFrom (find : Cursor → Option Region) (guard : Text) (fuel : Nat) :
    Option Cursor → List Region
  | none => []
  | some c => scanRegions find guard fuel c

theorem scanRegions_succ (find : Cursor → Option Region) (guard : Text) (fuel : Nat)
    (c : Cursor) :
    scanRegions find guard (fuel + 1) c =
      match find c with
      | none => []
      | some r =>
        if r.isGuarded guard then scanFrom find guard fuel r.start.next?
        else r :: scanFrom find guard fuel r.resume? := by
  rw [scanRegions]
  cases find c with
  | none => rfl
  | some r => cases r.start.next? <;> cases r.resume? <;> rfl

/-- As many searches as there are give all regions, and more give nothing else. -/
theorem Searches.scanFrom_eq {find : Cursor → Option Region} {guard : Text} {c? : Option Cursor}
    {places : List Cursor} {regions : List Region} (h : Searches find guard c? places regions)
    {fuel : Nat} (hfuel : places.length ≤ fuel) : scanFrom find guard fuel c? = regions := by
  induction h generalizing fuel with
  | ended => rfl
  | nothing hfind =>
    obtain ⟨fuel, rfl⟩ := Nat.exists_eq_add_of_le' hfuel
    simp only [scanFrom, List.length_singleton, scanRegions_succ, hfind]
  | guarded hfind hguard _ ih =>
    rw [List.length_cons] at hfuel
    obtain ⟨more, rfl⟩ := Nat.exists_eq_add_of_le' hfuel
    rw [scanFrom, ← Nat.add_assoc, scanRegions_succ, hfind]
    simp only [hguard, if_true]
    exact ih (Nat.le_add_left _ _)
  | found hfind hguard _ ih =>
    rw [List.length_cons] at hfuel
    obtain ⟨more, rfl⟩ := Nat.exists_eq_add_of_le' hfuel
    rw [scanFrom, ← Nat.add_assoc, scanRegions_succ, hfind]
    simp only [hguard, Bool.false_eq_true, if_false]
    rw [ih (Nat.le_add_left _ _)]

/-! ## Moving on -/

/-- In a host text nothing is found in front of the place of a search, and nothing outside of the
text. -/
def FindsAhead (find : Cursor → Option Region) (host : Text) : Prop :=
  ∀ c r, (Cursor.start host).Leads c → find c = some r →
    c.Leads r.start ∧ r.start.Leads r.stop

section Ahead

variable {find : Cursor → Option Region} {guard host : Text} {c? : Option Cursor}
  {places : List Cursor} {regions : List Region} (hfind : FindsAhead find host)
  (hplace : ∀ c ∈ c?, (Cursor.start host).Leads c)

include hfind

/-- The two places where a search can go on lie in the text and behind the search. -/
theorem FindsAhead.next {c : Cursor} {r : Region} (hc : (Cursor.start host).Leads c)
    (h : find c = some r) :
    (Cursor.start host).Leads r.start ∧ (Cursor.start host).Leads r.stop ∧
      c.index ≤ r.start.index ∧ r.start.index < r.behind := by
  obtain ⟨hstart, hstop⟩ := hfind c r hc h
  exact ⟨hc.trans hstart, (hc.trans hstart).trans hstop, hstart.index_le,
    Region.start_lt_behind hstop⟩

include hplace

theorem exists_searches (guard : Text) :
    ∃ places regions, Searches find guard c? places regions := by
  -- what is left of the text behind the place becomes less with every search
  induction hleft : host.length + 1 - Cursor.position host c? using Nat.strongRecOn
    generalizing c? with
  | ind left ih =>
    cases c? with
    | none => exact ⟨[], [], .ended⟩
    | some c =>
      have hc : (Cursor.start host).Leads c := hplace c rfl
      have hlength := hc.index_le_length
      simp only [Cursor.position] at hleft
      cases h : find c with
      | none => exact ⟨[c], [], .nothing h⟩
      | some r =>
        obtain ⟨hstart, hstop, hle, hbehind⟩ := hfind.next hc h
        cases hguard : r.isGuarded guard with
        | true =>
          have hnext := Cursor.position_next? hstart
          obtain ⟨places, regions, hrest⟩ := ih _ (by omega)
            (Cursor.leads_of_mem_next? hstart) rfl
          exact ⟨c :: places, regions, .guarded h hguard hrest⟩
        | false =>
          have hresume := Region.position_resume? hstop
          obtain ⟨places, regions, hrest⟩ := ih _ (by omega)
            (Region.leads_of_mem_resume? hstop) rfl
          exact ⟨c :: places, r :: regions, .found h hguard hrest⟩

/-- Every search starts at a place of the text. -/
theorem Searches.leads_of_mem (h : Searches find guard c? places regions) :
    ∀ p ∈ places, (Cursor.start host).Leads p := by
  induction h with
  | ended => simp
  | nothing => simpa using hplace
  | guarded h _ _ ih =>
    have hc := hplace _ rfl
    have hstart := (hfind.next hc h).1
    simpa using ⟨hc, ih (Cursor.leads_of_mem_next? hstart)⟩
  | found h _ _ ih =>
    have hc := hplace _ rfl
    have hstop := (hfind.next hc h).2.1
    simpa using ⟨hc, ih (Region.leads_of_mem_resume? hstop)⟩

/-- There are no more searches than positions left, the one at the end included. -/
theorem Searches.length_add_position_le (h : Searches find guard c? places regions) :
    places.length + Cursor.position host c? ≤ host.length + 1 := by
  induction h with
  | ended => simp [Cursor.position]
  | @nothing c =>
    have hlength := (hplace c rfl).index_le_length
    simp only [List.length_singleton, Cursor.position]
    omega
  | guarded h _ _ ih =>
    obtain ⟨hstart, hstop, hle, hbehind⟩ := hfind.next (hplace _ rfl) h
    have hrest := ih (Cursor.leads_of_mem_next? hstart)
    rw [Cursor.position_next? hstart] at hrest
    simp only [List.length_cons, Cursor.position]
    omega
  | found h _ _ ih =>
    obtain ⟨hstart, hstop, hle, hbehind⟩ := hfind.next (hplace _ rfl) h
    have hrest := ih (Region.leads_of_mem_resume? hstop)
    rw [Region.position_resume? hstop] at hrest
    simp only [List.length_cons, Cursor.position]
    omega

/-- A region was found by a search, and starts at or behind the place where the searches began. -/
theorem Searches.exists_find_of_mem (h : Searches find guard c? places regions) :
    ∀ r ∈ regions, (∃ c ∈ places, find c = some r) ∧
      Cursor.position host c? ≤ r.start.index := by
  induction h with
  | ended => simp
  | nothing => simp
  | guarded h _ _ ih =>
    obtain ⟨hstart, -, hle, -⟩ := hfind.next (hplace _ rfl) h
    intro r hr
    obtain ⟨⟨c, hc, hfound⟩, hposition⟩ := ih (Cursor.leads_of_mem_next? hstart) r hr
    rw [Cursor.position_next? hstart] at hposition
    refine ⟨⟨c, List.mem_cons_of_mem _ hc, hfound⟩, ?_⟩
    simp only [Cursor.position]
    omega
  | found h _ _ ih =>
    obtain ⟨-, hstop, hle, hbehind⟩ := hfind.next (hplace _ rfl) h
    intro r hr
    rcases List.mem_cons.mp hr with rfl | hr
    · exact ⟨⟨_, List.mem_cons_self, h⟩, hle⟩
    · obtain ⟨⟨c, hc, hfound⟩, hposition⟩ := ih (Region.leads_of_mem_resume? hstop) r hr
      rw [Region.position_resume? hstop] at hposition
      refine ⟨⟨c, List.mem_cons_of_mem _ hc, hfound⟩, ?_⟩
      simp only [Cursor.position]
      omega

theorem Searches.pairwise_behind (h : Searches find guard c? places regions) :
    regions.Pairwise fun r next => r.behind ≤ next.start.index := by
  induction h with
  | ended => exact .nil
  | nothing => exact .nil
  | guarded h _ _ ih =>
    have hstart := (hfind.next (hplace _ rfl) h).1
    exact ih (Cursor.leads_of_mem_next? hstart)
  | found h _ hrest ih =>
    have hstop := (hfind.next (hplace _ rfl) h).2.1
    have hresume := Region.leads_of_mem_resume? hstop
    refine List.pairwise_cons.mpr ⟨?_, ih hresume⟩
    intro next hnext
    rw [← Region.position_resume? hstop]
    exact (hrest.exists_find_of_mem hfind hresume next hnext).2

end Ahead

/-! ## Searching with a pattern -/

/-- The region in the first match at or behind a place, where `captures` gives that match. A match
without an opening tag or a body counts as none. -/
def Region.findBy (captures : Cursor → Option Match) (c : Cursor) : Option Region :=
  (captures c).bind ofMatch?

/-- In a host text every match lies at or behind the place of its search, and within the text. -/
def CapturesAhead (captures : Cursor → Option Match) (host : Text) : Prop :=
  ∀ c m, (Cursor.start host).Leads c → captures c = some m →
    c.Leads m.start ∧ m.start.Leads m.stop

theorem Region.ofMatch?_eq_some_iff {m : Match} {r : Region} :
    ofMatch? m = some r ↔ r.start = m.start ∧ r.stop = m.stop ∧
      m.group? "open" = some r.openTag ∧ m.group? "body" = some r.body := by
  obtain ⟨start, stop, openTag, body⟩ := r
  cases hopen : m.group? "open" <;> cases hbody : m.group? "body" <;>
    simp [ofMatch?, hopen, hbody, eq_comm]

theorem CapturesAhead.findsAhead {captures : Cursor → Option Match} {host : Text}
    (h : CapturesAhead captures host) : FindsAhead (Region.findBy captures) host := by
  intro c r hc hfound
  obtain ⟨m, hm, hregion⟩ := Option.bind_eq_some_iff.mp hfound
  obtain ⟨hstart, hstop, -⟩ := Region.ofMatch?_eq_some_iff.mp hregion
  rw [hstart, hstop]
  exact h c m hc hm

theorem RegionFinder.capturesAhead (finder : RegionFinder) (host : Text) :
    CapturesAhead finder.pattern.search host :=
  fun _ _ _ h => ⟨Node.leads_start_of_search h, Node.leads_stop_of_search h⟩

theorem RegionFinder.findsAhead (finder : RegionFinder) (host : Text) :
    FindsAhead finder.find host :=
  (finder.capturesAhead host).findsAhead

/-! ## Whole texts -/

/-- Searches through a host text that come to an end: how many there are, where they start, and how
their regions follow each other. -/
structure SearchesThrough (find : Cursor → Option Region) (guard host : Text)
    (places : List Cursor) (regions : List Region) : Prop where
  searches : Searches find guard (some (.start host)) places regions
  length_places_le : places.length ≤ host.length + 1
  places_inside : ∀ c ∈ places,
    c.text = host ∧ host.isBoundary c.offset = true ∧ c.offset ≤ host.byteLength
  offsets_increase : (regions.map Region.snippet).Pairwise fun s next => s.offset < next.offset
  spans_apart : regions.Pairwise fun r next => r.stop.offset ≤ next.start.offset

theorem FindsAhead.exists_searchesThrough {find : Cursor → Option Region} {host : Text}
    (h : FindsAhead find host) (guard : Text) :
    ∃ places regions, SearchesThrough find guard host places regions := by
  have hplace := Cursor.leads_of_mem_start host
  obtain ⟨places, regions, hsearches⟩ := exists_searches h hplace guard
  have hinside := hsearches.leads_of_mem h hplace
  have hregion : ∀ r ∈ regions, (Cursor.start host).Leads r.start ∧
      (Cursor.start host).Leads r.stop ∧ r.start.index < r.behind := by
    intro r hr
    obtain ⟨⟨c, hc, hfound⟩, -⟩ := hsearches.exists_find_of_mem h hplace r hr
    obtain ⟨hstart, hstop, -, hbehind⟩ := h.next (hinside c hc) hfound
    exact ⟨hstart, hstop, hbehind⟩
  have hapart := hsearches.pairwise_behind h hplace
  refine ⟨places, regions, hsearches, ?_, ?_, ?_, ?_⟩
  · exact hsearches.length_add_position_le h hplace
  · intro c hc
    have hleads := hinside c hc
    exact ⟨hleads.text_eq, hleads.isBoundary_offset, hleads.offset_le_byteLength⟩
  · rw [List.pairwise_map]
    refine hapart.imp_of_mem ?_
    intro r next hr hnext hle
    have hlt := (hregion r hr).2.2
    exact Cursor.offset_lt_of_index_lt (hregion r hr).1 (hregion next hnext).1 (by omega)
  · refine hapart.imp_of_mem ?_
    intro r next hr hnext hle
    have hstop := r.stop_le_behind
    exact Cursor.offset_le_of_index_le (hregion r hr).2.1 (hregion next hnext).1 (by omega)

theorem SearchesThrough.exists_find_of_mem {find : Cursor → Option Region} {guard host : Text}
    {places : List Cursor} {regions : List Region}
    (h : SearchesThrough find guard host places regions) (hfind : FindsAhead find host) :
    ∀ r ∈ regions, ∃ c, (Cursor.start host).Leads c ∧ find c = some r := by
  have hplace := Cursor.leads_of_mem_start host
  intro r hr
  obtain ⟨⟨c, hc, hfound⟩, -⟩ := h.searches.exists_find_of_mem hfind hplace r hr
  exact ⟨c, h.searches.leads_of_mem hfind hplace c hc, hfound⟩

theorem SearchesThrough.scanRegions_eq {find : Cursor → Option Region} {guard host : Text}
    {places : List Cursor} {regions : List Region}
    (h : SearchesThrough find guard host places regions) {fuel : Nat}
    (hfuel : host.length + 1 ≤ fuel) : scanRegions find guard fuel (.start host) = regions :=
  h.searches.scanFrom_eq (Nat.le_trans h.length_places_le hfuel)

/-- The regions of a finder are those of its searches through the text. -/
theorem RegionFinder.exists_searchesThrough (finder : RegionFinder) (host : Text) :
    ∃ places, SearchesThrough finder.find finder.guard host places (finder.regions host) := by
  obtain ⟨places, regions, h⟩ := (finder.findsAhead host).exists_searchesThrough finder.guard
  obtain rfl : finder.regions host = regions := h.scanRegions_eq (Nat.le_refl _)
  exact ⟨places, h⟩

/-- Whatever a pattern matches ahead of a search, also where it matches the empty text, the searches
through a host text come to an end within its positions, and so many of them find all regions. -/
theorem scanRegions_comes_to_end (captures : Cursor → Option Match) (guard host : Text)
    (hcaptures : CapturesAhead captures host) :
    ∃ places regions,
      SearchesThrough (Region.findBy captures) guard host places regions ∧
      ∀ fuel, host.length + 1 ≤ fuel →
        scanRegions (Region.findBy captures) guard fuel (.start host) = regions := by
  obtain ⟨places, regions, h⟩ := hcaptures.findsAhead.exists_searchesThrough guard
  exact ⟨places, regions, h, fun fuel hfuel => h.scanRegions_eq hfuel⟩

/-- Tags that match runs of a letter, also empty ones. -/
def TagPatterns.letterRuns : TagPatterns where
  opening := "a*"
  closing := ""
  body := ""
  guard := "\""

def RegionFinder.letterRuns : RegionFinder where
  pattern := .cat (.capture "open" (.star true (.set (.single 'a'))))
    (.cat (.capture "body" .empty) .empty)
  guard := ['"']

theorem RegionFinder.ofTags_letterRuns : ofTags .letterRuns = .ok .letterRuns := by
  have hcompile : Pattern.compile TagPatterns.letterRuns.regionPattern.toList =
      some letterRuns.pattern := by
    decide +kernel
  have hguard : TagPatterns.letterRuns.guard.toList = letterRuns.guard := rfl
  simp only [ofTags, hcompile, hguard]

/-- Empty regions in front of a character of two bytes and at the end, and a guarded one. -/
theorem scanRegions_comes_to_end_letterRuns :
    RegionFinder.ofTags .letterRuns = .ok .letterRuns ∧
      CapturesAhead RegionFinder.letterRuns.pattern.search "é\"aab".toList ∧
      (∃ places, SearchesThrough RegionFinder.letterRuns.find ['"'] "é\"aab".toList places
        (RegionFinder.letterRuns.regions "é\"aab".toList)) ∧
      (RegionFinder.letterRuns.snippets "é\"aab".toList).map Snippet.offset =
        [0, 2, 4, 5, 6] := by
  have hcaptures := RegionFinder.letterRuns.capturesAhead "é\"aab".toList
  refine ⟨RegionFinder.ofTags_letterRuns, hcaptures, ?_, by decide +kernel⟩
  obtain ⟨places, regions, hthrough, hregions⟩ :=
    scanRegions_comes_to_end RegionFinder.letterRuns.pattern.search ['"'] _ hcaptures
  obtain rfl : RegionFinder.letterRuns.regions "é\"aab".toList = regions :=
    hregions _ (Nat.le_refl _)
  exact ⟨places, hthrough⟩

end Excerpt
