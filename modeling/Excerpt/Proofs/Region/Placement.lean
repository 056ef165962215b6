import Excerpt.Region
import Excerpt.Proofs.Pattern.Search

/-! # Where snippets stand

A finder is aligned when its matches start with the opening tag and go on with the body. The
snippets of such a finder are found where their offsets say, one behind the other. -/

namespace Excerpt

open Pattern

/-! ## Aligned finders -/

/-- The opening tag stands at the start of the match, and the body directly behind it. -/
def Pattern.Match.Aligned (m : Match) : Prop :=
  ∀ openStart openStop bodyStart bodyStop,
    m.groups.lookup "open" = some (openStart, openStop) →
    m.groups.lookup "body" = some (bodyStart, bodyStop) →
    openStart = m.start ∧ bodyStart = openStop

/-- All matches in a host text are aligned, wherever they are searched from. -/
def RegionFinder.AlignedIn (finder : RegionFinder) (host : Text) : Prop :=
  ∀ c m, (Cursor.start host).Leads c → finder.pattern.search c = some m → m.Aligned

/-! ## Patterns of tags -/

/-- Whether a pattern is the group of an opening tag, the group of a body and a rest, one behind
the other, and no later part has a group of the same name. -/
def Pattern.Node.isTagSequence : Node → Bool
  | .cat (.capture "open" _) (.cat (.capture "body" body) closing) =>
    !body.names.contains "open" && !closing.names.contains "open" &&
      !closing.names.contains "body"
  | _ => false

theorem Pattern.Node.isTagSequence_iff {n : Node} :
    n.isTagSequence ↔ ∃ opening body closing,
      n = .cat (.capture "open" opening) (.cat (.capture "body" body) closing) ∧
        "open" ∉ body.names ∧ "open" ∉ closing.names ∧ "body" ∉ closing.names := by
  constructor
  · intro h
    unfold isTagSequence at h
    split at h
    · exact ⟨_, _, _, rfl, by simpa [and_assoc] using h⟩
    · contradiction
  · rintro ⟨opening, body, closing, rfl, hopenBody, hopenClosing, hbodyClosing⟩
    simp [isTagSequence, hopenBody, hopenClosing, hbodyClosing]

/-- Such a pattern has the opening tag and the body in every match, one behind the other. -/
theorem exists_groups_of_matchAt {n : Node} {c : Cursor} {m : Match} (hn : n.isTagSequence)
    (h : n.matchAt c = some m) :
    ∃ openStop bodyStop, m.groups.lookup "open" = some (m.start, openStop) ∧
      m.groups.lookup "body" = some (openStop, bodyStop) := by
  obtain ⟨opening, body, closing, rfl, hopenBody, hopenClosing, hbodyClosing⟩ :=
    Node.isTagSequence_iff.mp hn
  obtain ⟨hstart, v, hv, -, hgroups⟩ := Node.exists_of_matchAt h
  obtain ⟨w, hw, hclosing⟩ := Node.exists_extends_of_mem_run closing _ v hv
  obtain ⟨u, hu, hbody, hothers⟩ := Node.exists_of_mem_run_capture hw
  obtain ⟨start, hway, hopening, -⟩ := Node.exists_of_mem_run_capture hu
  obtain rfl := List.mem_singleton.mp hway
  refine ⟨u.cursor, w.cursor, ?_, ?_⟩
  · rw [hgroups, hclosing.lookup_eq hopenClosing, hothers "open" (by decide) hopenBody, hopening,
      hstart]
    rfl
  · rw [hgroups, hclosing.lookup_eq hbodyClosing, hbody]

/-- A finder with such a pattern is aligned in every text, whatever stands in the groups. -/
theorem RegionFinder.alignedIn_of_isTagSequence {finder : RegionFinder}
    (h : finder.pattern.isTagSequence) (host : Text) : finder.AlignedIn host := by
  intro c m _ hsearch
  obtain ⟨tagStop, snippetStop, hopenGroup, hbodyGroup⟩ :=
    exists_groups_of_matchAt h (Node.searchFrom_eq_some hsearch).2
  intro openStart openStop bodyStart bodyStop hopen hbody
  rw [hopenGroup] at hopen
  rw [hbodyGroup] at hbody
  obtain ⟨rfl, rfl⟩ := Prod.mk.inj (Option.some.inj hopen)
  obtain ⟨rfl, rfl⟩ := Prod.mk.inj (Option.some.inj hbody)
  exact ⟨rfl, rfl⟩

/-! ## Regions -/

/-- The parts of a region follow each other from its start on. -/
structure Region.LaidOut (r : Region) (bodyStart bodyStop : Cursor) : Prop where
  openTag_reads : r.start.Reads r.openTag bodyStart
  body_reads : bodyStart.Reads r.body bodyStop
  leads_stop : bodyStop.Leads r.stop

theorem Region.leads_of_resume? {r : Region} {c : Cursor} (h : r.resume? = some c) :
    r.stop.Leads c := by
  unfold resume? at h
  split at h
  · exact Cursor.leads_of_next? h
  · obtain rfl := Option.some.inj h
    exact .refl _

theorem RegionFinder.exists_laidOut_of_find {finder : RegionFinder} {host : Text} {c : Cursor}
    {r : Region} (haligned : finder.AlignedIn host) (hc : (Cursor.start host).Leads c)
    (h : finder.find c = some r) :
    c.Leads r.start ∧ ∃ bodyStart bodyStop, r.LaidOut bodyStart bodyStop := by
  obtain ⟨m, hsearch, hregion⟩ := Option.bind_eq_some_iff.mp h
  obtain ⟨openTag, hopenTag, hregion⟩ := Option.bind_eq_some_iff.mp hregion
  obtain ⟨body, hbody, hregion⟩ := Option.bind_eq_some_iff.mp hregion
  obtain ⟨⟨openStart, openStop⟩, hopenGroup, rfl⟩ := Option.map_eq_some_iff.mp hopenTag
  obtain ⟨⟨bodyStart, bodyStop⟩, hbodyGroup, rfl⟩ := Option.map_eq_some_iff.mp hbody
  obtain rfl := Option.some.inj hregion
  obtain ⟨rfl, rfl⟩ := haligned c m hc hsearch _ _ _ _ hopenGroup hbodyGroup
  have hopenWithin := Node.within_of_search hsearch hopenGroup
  have hbodyWithin := Node.within_of_search hsearch hbodyGroup
  exact ⟨Node.leads_start_of_search hsearch, bodyStart, bodyStop,
    hopenWithin.leads.reads_upTo, hbodyWithin.leads.reads_upTo, hbodyWithin.leads_stop⟩

/-! ## Snippets -/

/-- A snippet stands in a host text behind `front`, which ends with its opening tag, and in front
of `back`. -/
structure Snippet.Placed (s : Snippet) (host front back : Text) : Prop where
  host_eq : host = front ++ s.body ++ back
  byteLength_front : front.byteLength = s.bodyOffset
  openTag_suffix : s.openTag <:+ front

/-- The snippets stand in the host text one behind the other, and all of them behind `done`. -/
def PlacedInOrder (host : Text) : Text → List Snippet → Prop
  | _, [] => True
  | done, s :: rest => ∃ front back, s.Placed host front back ∧ done <+: front ∧
      PlacedInOrder host (front ++ s.body) rest

theorem PlacedInOrder.mono {host done done' : Text} {snippets : List Snippet}
    (h : PlacedInOrder host done snippets) (hdone : done' <+: done) :
    PlacedInOrder host done' snippets := by
  cases snippets with
  | nil => trivial
  | cons s rest =>
    obtain ⟨front, back, hplaced, hprefix, hrest⟩ := h
    exact ⟨front, back, hplaced, hdone.trans hprefix, hrest⟩

theorem PlacedInOrder.filter {host done : Text} {snippets : List Snippet}
    (h : PlacedInOrder host done snippets) (q : Snippet → Bool) :
    PlacedInOrder host done (snippets.filter q) := by
  induction snippets generalizing done with
  | nil => trivial
  | cons s rest ih =>
    obtain ⟨front, back, hplaced, hdone, hrest⟩ := h
    rw [List.filter_cons]
    split
    · exact ⟨front, back, hplaced, hdone, ih hrest⟩
    · exact (ih hrest).mono (hdone.trans (List.prefix_append front s.body))

theorem Pattern.Cursor.Leads.isPrefix_reverse_before {c d : Cursor} (h : c.Leads d) :
    c.before.reverse <+: d.before.reverse := by
  obtain ⟨taken, htaken⟩ := h
  rw [htaken.before_eq, List.reverse_append, List.reverse_reverse]
  exact List.prefix_append _ _

theorem Region.LaidOut.placed {r : Region} {host : Text} {bodyStart bodyStop : Cursor}
    (h : r.LaidOut bodyStart bodyStop) (hr : (Cursor.start host).Leads r.start) :
    r.snippet.Placed host bodyStart.before.reverse bodyStop.after where
  host_eq := by
    have htext : bodyStart.text = host := h.openTag_reads.text_eq.trans hr.text_eq
    rw [List.append_assoc, show r.snippet.body = r.body from rfl, ← h.body_reads.after_eq]
    exact htext.symm
  byteLength_front := by
    rw [Text.byteLength_reverse]
    exact h.openTag_reads.offset_eq
  openTag_suffix := by
    rw [h.openTag_reads.before_eq, List.reverse_append, List.reverse_reverse]
    exact List.suffix_append _ _

theorem placedInOrder_scanRegions {find : Cursor → Option Region} {host : Text} (guard : Text)
    (hfind : ∀ c r, (Cursor.start host).Leads c → find c = some r →
      c.Leads r.start ∧ ∃ bodyStart bodyStop, r.LaidOut bodyStart bodyStop)
    (fuel : Nat) {c : Cursor} (hc : (Cursor.start host).Leads c) :
    PlacedInOrder host c.before.reverse ((scanRegions find guard fuel c).map Region.snippet) := by
  induction fuel generalizing c with
  | zero => trivial
  | succ fuel ih =>
    rw [scanRegions]
    cases hr : find c with
    | none => trivial
    | some r =>
      dsimp only
      obtain ⟨hleads, bodyStart, bodyStop, hlaid⟩ := hfind c r hc hr
      have hstart : (Cursor.start host).Leads r.start := hc.trans hleads
      by_cases hguard : r.isGuarded guard
      · rw [if_pos hguard]
        cases hnext : r.start.next? with
        | none => trivial
        | some d =>
          have hd : r.start.Leads d := Cursor.leads_of_next? hnext
          exact (ih (hstart.trans hd)).mono (hleads.trans hd).isPrefix_reverse_before
      · rw [if_neg hguard]
        have hbody : bodyStart.before.reverse ++ r.body = bodyStop.before.reverse := by
          rw [hlaid.body_reads.before_eq, List.reverse_append, List.reverse_reverse]
        refine ⟨bodyStart.before.reverse, bodyStop.after, hlaid.placed hstart,
          (hleads.trans hlaid.openTag_reads.leads).isPrefix_reverse_before, ?_⟩
        rw [show r.snippet.body = r.body from rfl, hbody]
        cases hresume : r.resume? with
        | none => trivial
        | some d =>
          have hd : bodyStop.Leads d := hlaid.leads_stop.trans (Region.leads_of_resume? hresume)
          have hstop : (Cursor.start host).Leads bodyStop :=
            (hstart.trans hlaid.openTag_reads.leads).trans hlaid.body_reads.leads
          exact (ih (hstop.trans hd)).mono hd.isPrefix_reverse_before

/-- The snippets of an aligned finder stand where their offsets say, from left to right and
without overlap. -/
theorem RegionFinder.placedInOrder_snippets {finder : RegionFinder} {host : Text}
    (haligned : finder.AlignedIn host) : PlacedInOrder host [] (finder.snippets host) :=
  placedInOrder_scanRegions finder.guard (fun _ _ hc h => exists_laidOut_of_find haligned hc h)
    (host.length + 1) (.refl (.start host))

theorem PlacedInOrder.exists_placed {host done : Text} {snippets : List Snippet} {s : Snippet}
    (h : PlacedInOrder host done snippets) (hs : s ∈ snippets) :
    ∃ front back, s.Placed host front back := by
  induction snippets generalizing done with
  | nil => simp at hs
  | cons first rest ih =>
    obtain ⟨front, back, hplaced, -, hrest⟩ := h
    rcases List.mem_cons.mp hs with rfl | hs
    · exact ⟨front, back, hplaced⟩
    · exact ih hrest hs

end Excerpt
