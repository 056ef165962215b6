import Excerpt.Proofs.Region.Placement
import Excerpt.Proofs.Region.Searches
import Mathlib.Data.List.Forall2
import Mathlib.Order.Bounds.Basic

/-! # Scanning position by position

Going on behind the start of a guarded match, and behind the end of any other, passes over nothing:
the snippets are those of a scan that tries one position after the other. -/

namespace Excerpt

open Pattern

namespace Pattern.Match

/-- The position where the next match may start: the end of this one, or a character further on if
it is empty. -/
def behind (m : Match) : Nat :=
  if m.isEmpty then m.stop.index + 1 else m.stop.index

/-- The match has captured the opening tag and the body of a snippet, and starts at its offset. -/
structure Holds (m : Match) (s : Snippet) : Prop where
  openTag_eq : m.group? "open" = some s.openTag
  body_eq : m.group? "body" = some s.body
  offset_eq : m.start.offset = s.offset

theorem Holds.unique {m : Match} {s other : Snippet} (h : m.Holds s) (h' : m.Holds other) :
    s = other := by
  obtain ⟨openTag, body, offset⟩ := s
  obtain ⟨openTag', body', offset'⟩ := other
  obtain rfl : openTag = openTag' := Option.some.inj (h.openTag_eq.symm.trans h'.openTag_eq)
  obtain rfl : body = body' := Option.some.inj (h.body_eq.symm.trans h'.body_eq)
  obtain rfl : offset = offset' := h.offset_eq.symm.trans h'.offset_eq
  rfl

theorem holds_snippet {m : Match} {r : Region} (h : Region.ofMatch? m = some r) :
    m.Holds r.snippet := by
  obtain ⟨hstart, -, hopen, hbody⟩ := Region.ofMatch?_eq_some_iff.mp h
  exact ⟨hopen, hbody, congrArg Cursor.offset hstart.symm⟩

theorem behind_of_ofMatch? {m : Match} {r : Region} (h : Region.ofMatch? m = some r) :
    r.behind = m.behind := by
  obtain ⟨hstart, hstop, -⟩ := Region.ofMatch?_eq_some_iff.mp h
  rw [Region.behind, Region.isEmpty, hstart, hstop]
  rfl

end Pattern.Match

theorem Region.isGuarded_eq_false_iff {guard host : Text} {s : Nat} {r : Region}
    (h : r.start = .place host s) :
    r.isGuarded guard = false ↔ ∀ c, (host.take s).getLast? = some c → c ∉ guard := by
  have hbefore : r.start.before = (host.take s).reverse := by
    rw [h]
    rfl
  rw [← List.head?_reverse, isGuarded, hbefore]
  cases (host.take s).reverse with
  | nil => simp
  | cons c rest => simp

namespace RegionFinder

/-! ## The plain scan -/

/-- The pattern matches at a position of the host text, where it sees all of the text, and the
character in front of it, if there is one, is not in the guard. -/
structure MatchesAt (finder : RegionFinder) (host : Text) (s : Nat) (m : Match) : Prop where
  le_length : s ≤ host.length
  matchAt_eq : finder.pattern.matchAt (.place host s) = some m
  unguarded : ∀ c, (host.take s).getLast? = some c → c ∉ finder.guard

/-- The matches of a text from a position on, always the first one that is not guarded. The scan is
done when there is none any more. -/
inductive PlainScan (finder : RegionFinder) (host : Text) : Nat → List Match → Prop where
  | done {p : Nat} (h : ∀ s m, finder.MatchesAt host s m → s < p) : PlainScan finder host p []
  | found {p s : Nat} {m : Match} {rest : List Match} (hmatch : finder.MatchesAt host s m)
      (hleast : IsLeast {s | p ≤ s ∧ ∃ m, finder.MatchesAt host s m} s)
      (hrest : PlainScan finder host m.behind rest) : PlainScan finder host p (m :: rest)

variable {finder : RegionFinder} {host : Text}

theorem MatchesAt.unique {s : Nat} {m other : Match} (h : finder.MatchesAt host s m)
    (h' : finder.MatchesAt host s other) : m = other :=
  Option.some.inj (h.matchAt_eq.symm.trans h'.matchAt_eq)

namespace PlainScan

/-- A text has one scan from a position. -/
theorem unique {p : Nat} {ms others : List Match} (h : finder.PlainScan host p ms)
    (h' : finder.PlainScan host p others) : ms = others := by
  induction h generalizing others with
  | done hnone =>
    cases h' with
    | done => rfl
    | found hmatch hleast =>
      have hlt := hnone _ _ hmatch
      have hle := hleast.1.1
      omega
  | found hmatch hleast _ ih =>
    cases h' with
    | done hnone =>
      have hlt := hnone _ _ hmatch
      have hle := hleast.1.1
      omega
    | found hmatch' hleast' hrest' =>
      obtain rfl := hleast.unique hleast'
      obtain rfl := hmatch.unique hmatch'
      rw [ih hrest']

/-- A part of the text in which no match starts can be passed over. -/
theorem of_no_match {p q : Nat} {ms : List Match} (hpq : p ≤ q)
    (hnone : ∀ s m, finder.MatchesAt host s m → p ≤ s → q ≤ s) (h : finder.PlainScan host q ms) :
    finder.PlainScan host p ms := by
  cases h with
  | done hdone =>
    apply PlainScan.done
    intro s m hm
    have hlt := hdone s m hm
    have hle := hnone s m hm
    omega
  | found hmatch hleast hrest =>
    refine .found hmatch ⟨⟨hpq.trans hleast.1.1, _, hmatch⟩, ?_⟩ hrest
    rintro s ⟨hps, m, hm⟩
    exact hleast.2 ⟨hnone s m hm hps, m, hm⟩

/-- A match that is not guarded is found, unless it starts inside one that is found. -/
theorem mem_or_inside {p s : Nat} {ms : List Match} {m : Match}
    (h : finder.PlainScan host p ms) (hm : finder.MatchesAt host s m) (hps : p ≤ s) :
    m ∈ ms ∨ ∃ found ∈ ms, found.start.index < s ∧ s < found.stop.index := by
  induction h with
  | done hnone =>
    have hlt := hnone s m hm
    omega
  | @found p first found rest hmatch hleast _ ih =>
    have hfirst : first ≤ s := hleast.2 ⟨hps, m, hm⟩
    have hstart : found.start.index = first := by
      rw [(Node.exists_of_matchAt hmatch.matchAt_eq).1]
      rfl
    rcases Nat.eq_or_lt_of_le hfirst with rfl | hlt
    · exact .inl (hm.unique hmatch ▸ List.mem_cons_self)
    · by_cases hbehind : found.behind ≤ s
      · rcases ih hbehind with hmem | ⟨other, hother, hinside⟩
        · exact .inl (List.mem_cons_of_mem found hmem)
        · exact .inr ⟨other, List.mem_cons_of_mem found hother, hinside⟩
      · refine .inr ⟨found, List.mem_cons_self, by omega, ?_⟩
        -- an empty match has no inside
        unfold Match.behind at hbehind
        split at hbehind
        · rename_i hempty
          have heq : found.start.index = found.stop.index := by simpa [Match.isEmpty] using hempty
          omega
        · omega

end PlainScan

/-! ## Searching and scanning -/

/-- Every match of the pattern in a host text has captured an opening tag and a body. -/
def CapturesTags (finder : RegionFinder) (host : Text) : Prop :=
  ∀ s m, s ≤ host.length → finder.pattern.matchAt (.place host s) = some m →
    (m.group? "open").isSome ∧ (m.group? "body").isSome

theorem CapturesTags.exists_region (h : finder.CapturesTags host) {s : Nat} {m : Match}
    (hs : s ≤ host.length) (hm : finder.pattern.matchAt (.place host s) = some m) :
    ∃ r, Region.ofMatch? m = some r := by
  obtain ⟨hopen, hbody⟩ := h s m hs hm
  obtain ⟨openTag, hopen⟩ := Option.isSome_iff_exists.mp hopen
  obtain ⟨body, hbody⟩ := Option.isSome_iff_exists.mp hbody
  exact ⟨⟨m.start, m.stop, openTag, body⟩, Region.ofMatch?_eq_some_iff.mpr ⟨rfl, rfl, hopen, hbody⟩⟩

/-- A pattern that starts with its two groups has both in every match. -/
theorem capturesTags_of_isTagSequence (h : finder.pattern.isTagSequence) (host : Text) :
    finder.CapturesTags host := by
  intro s m _ hmatch
  obtain ⟨openStop, bodyStop, hopen, hbody⟩ := exists_groups_of_matchAt h hmatch
  simp [Match.group?, hopen, hbody]

/-- What a search finds is the first match, guarded or not. -/
theorem exists_matchAt_of_find {c : Cursor} {r : Region} (hc : (Cursor.start host).Leads c)
    (h : finder.find c = some r) :
    ∃ s m, c.index ≤ s ∧ s ≤ host.length ∧ finder.pattern.matchAt (.place host s) = some m ∧
      Region.ofMatch? m = some r ∧
      ∀ t other, finder.MatchesAt host t other → c.index ≤ t → s ≤ t := by
  obtain ⟨m, hsearch, hregion⟩ := Option.bind_eq_some_iff.mp h
  rw [hc.eq_place] at hsearch
  obtain ⟨s, hcs, hs, hmatch, hfirst⟩ :=
    (Node.search_place_eq_some_iff _ hc.index_le_length m).mp hsearch
  refine ⟨s, m, hcs, hs, hmatch, hregion, ?_⟩
  intro t other hother hct
  apply Nat.le_of_not_lt
  intro hts
  have hnone := hfirst t hct hts
  rw [hother.matchAt_eq] at hnone
  exact absurd hnone (Option.some_ne_none other)

theorem not_matchesAt_of_find_eq_none (hcaptures : finder.CapturesTags host) {c : Cursor}
    (hc : (Cursor.start host).Leads c) (h : finder.find c = none) {s : Nat} {m : Match}
    (hm : finder.MatchesAt host s m) : s < c.index := by
  have hsearch : finder.pattern.search (.place host c.index) = none := by
    cases hfound : finder.pattern.search (.place host c.index) with
    | none => rfl
    | some found =>
      obtain ⟨t, -, ht, hmatch, -⟩ :=
        (Node.search_place_eq_some_iff _ hc.index_le_length found).mp hfound
      obtain ⟨r, hr⟩ := hcaptures.exists_region ht hmatch
      rw [find, hc.eq_place, hfound, Option.bind_some, hr] at h
      exact absurd h (Option.some_ne_none r)
  apply Nat.lt_of_not_le
  intro hle
  have hnone := (Node.search_place_eq_none_iff _ hc.index_le_length).mp hsearch s hle hm.le_length
  rw [hm.matchAt_eq] at hnone
  exact absurd hnone (Option.some_ne_none m)

/-- Searches go through a text as the plain scan does. -/
theorem exists_plainScan (hcaptures : finder.CapturesTags host) {c? : Option Cursor}
    {places : List Cursor} {regions : List Region}
    (h : Searches finder.find finder.guard c? places regions)
    (hplace : ∀ c ∈ c?, (Cursor.start host).Leads c) :
    ∃ ms, finder.PlainScan host (Cursor.position host c?) ms ∧
      List.Forall₂ (fun m r => Region.ofMatch? m = some r) ms regions := by
  have hahead := finder.findsAhead host
  induction h with
  | ended =>
    refine ⟨[], .done ?_, .nil⟩
    intro s m hm
    exact Nat.lt_succ_of_le hm.le_length
  | @nothing c hnone =>
    refine ⟨[], .done ?_, .nil⟩
    intro s m hm
    exact not_matchesAt_of_find_eq_none hcaptures (hplace c rfl) hnone hm
  | @guarded c r places regions hfind hguard _ ih =>
    have hc := hplace c rfl
    obtain ⟨s, m, hcs, -, hmatch, hregion, hfirst⟩ := exists_matchAt_of_find hc hfind
    have hstart : r.start = .place host s := by
      rw [(Region.ofMatch?_eq_some_iff.mp hregion).1]
      exact (Node.exists_of_matchAt hmatch).1
    have hleads := (hahead.next hc hfind).1
    obtain ⟨ms, hscan, hregions⟩ := ih (Cursor.leads_of_mem_next? hleads)
    rw [Cursor.position_next? hleads, hstart] at hscan
    refine ⟨ms, hscan.of_no_match (Nat.le_succ_of_le hcs) ?_, hregions⟩
    intro t other hother hct
    have hle := hfirst t other hother hct
    -- the match at this very position is guarded
    have hne : t ≠ s := by
      rintro rfl
      rw [(Region.isGuarded_eq_false_iff hstart).mpr hother.unguarded] at hguard
      exact Bool.false_ne_true hguard
    exact Nat.lt_of_le_of_ne hle hne.symm
  | @found c r places regions hfind hguard _ ih =>
    have hc := hplace c rfl
    obtain ⟨s, m, hcs, hs, hmatch, hregion, hfirst⟩ := exists_matchAt_of_find hc hfind
    have hstart : r.start = .place host s := by
      rw [(Region.ofMatch?_eq_some_iff.mp hregion).1]
      exact (Node.exists_of_matchAt hmatch).1
    have hm : finder.MatchesAt host s m :=
      ⟨hs, hmatch, (Region.isGuarded_eq_false_iff hstart).mp hguard⟩
    have hstop := (hahead.next hc hfind).2.1
    obtain ⟨ms, hscan, hregions⟩ := ih (Region.leads_of_mem_resume? hstop)
    rw [Region.position_resume? hstop, Match.behind_of_ofMatch? hregion] at hscan
    refine ⟨m :: ms, .found hm ⟨⟨hcs, m, hm⟩, ?_⟩ hscan, .cons hregion hregions⟩
    rintro t ⟨hct, other, hother⟩
    exact hfirst t other hother hct

theorem exists_plainScan_regions (hcaptures : finder.CapturesTags host) :
    ∃ ms, finder.PlainScan host 0 ms ∧
      List.Forall₂ (fun m r => Region.ofMatch? m = some r) ms (finder.regions host) := by
  obtain ⟨places, hsearches⟩ := finder.exists_searchesThrough host
  exact exists_plainScan hcaptures hsearches.searches (Cursor.leads_of_mem_start host)

theorem exists_plainScan_snippets (hcaptures : finder.CapturesTags host) :
    ∃ ms, finder.PlainScan host 0 ms ∧ List.Forall₂ Match.Holds ms (finder.snippets host) := by
  obtain ⟨ms, hscan, hregions⟩ := exists_plainScan_regions hcaptures
  refine ⟨ms, hscan, ?_⟩
  rw [snippets, List.forall₂_map_right_iff]
  exact hregions.imp fun m r h => Match.holds_snippet h

/-- If every match has its two groups, the snippets of a host text are those of the plain scan from
its start, no others, and in its order. So a guarded match hides nothing: a match that is not
guarded is found, unless it starts inside one that is found. -/
theorem snippets_eq_iff_plainScan (finder : RegionFinder) (host : Text)
    (hcaptures : finder.CapturesTags host) :
    (∀ snippets, finder.snippets host = snippets ↔
      ∃ ms, finder.PlainScan host 0 ms ∧ List.Forall₂ Match.Holds ms snippets) ∧
    ∀ ms s m, finder.PlainScan host 0 ms → finder.MatchesAt host s m →
      m ∈ ms ∨ ∃ found ∈ ms, found.start.index < s ∧ s < found.stop.index := by
  obtain ⟨ms, hscan, hsnippets⟩ := exists_plainScan_snippets hcaptures
  refine ⟨?_, fun _ s m h hm => h.mem_or_inside hm (Nat.zero_le s)⟩
  intro snippets
  constructor
  · rintro rfl
    exact ⟨ms, hscan, hsnippets⟩
  · rintro ⟨others, hothers, hholds⟩
    obtain rfl := hscan.unique hothers
    exact List.right_unique_forall₂' (fun _ _ _ h h' => h.unique h') hsnippets hholds

/-- The run of two letters is guarded, but not the second letter of it. -/
theorem snippets_eq_iff_plainScan_letterRuns :
    ofTags .letterRuns = .ok .letterRuns ∧ letterRuns.CapturesTags "\"aaé".toList ∧
      ∃ ms, letterRuns.PlainScan "\"aaé".toList 0 ms ∧
        List.Forall₂ Match.Holds ms [⟨[], [], 0⟩, ⟨['a'], [], 2⟩, ⟨[], [], 3⟩, ⟨[], [], 5⟩] := by
  have hcaptures : letterRuns.CapturesTags "\"aaé".toList :=
    capturesTags_of_isTagSequence (by decide) _
  refine ⟨ofTags_letterRuns, hcaptures, ?_⟩
  exact ((snippets_eq_iff_plainScan letterRuns _ hcaptures).1 _).mp (by decide +kernel)

end RegionFinder

end Excerpt
