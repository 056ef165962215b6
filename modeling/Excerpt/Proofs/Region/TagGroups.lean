import Excerpt.Proofs.Pattern.Names
import Excerpt.Proofs.Region.Placement
import Excerpt.Proofs.Region.Searches

/-! # Where the body of a snippet stands

The offset of a body is reckoned from the length of the opening tag. It is right for every pattern
that is the group of an opening tag, the group of a body and a rest, whatever stands in them, and
so for all tags that are read as the three groups that they are written as. -/

namespace Excerpt

open Pattern

/-! ## Tags read as groups -/

/-- Whether an expression is the group of an opening tag, the group of a body and a group without a
capture, one behind the other. -/
def Pattern.Expr.isTagSequence : Expr → Bool
  | .cat (.capture (some "open") _) (.cat (.capture (some "body") _) (.group _)) => true
  | _ => false

/-- Whether the pattern of a region is read as the three groups that it is written as. A pattern in
it may close its own group and open others. -/
def TagPatterns.readsAsGroups (tags : TagPatterns) : Bool :=
  (readExpr tags.regionPattern.toList).any Expr.isTagSequence

theorem Pattern.Expr.exists_of_isTagSequence {e : Expr} (h : e.isTagSequence) :
    ∃ opening body closing, e =
      .cat (.capture (some "open") opening) (.cat (.capture (some "body") body)
        (.group closing)) := by
  unfold isTagSequence at h
  split at h
  · exact ⟨_, _, _, rfl⟩
  · contradiction

theorem Pattern.nodup_names_of_readExpr {pattern : Text} {e : Expr}
    (h : readExpr pattern = some e) : e.names.Nodup := by
  unfold readExpr at h
  split at h
  · contradiction
  · split at h
    · rename_i hlimits
      obtain rfl := Option.some.inj h
      exact hlimits.1
    · contradiction

/-- Names occur once in a pattern, so the groups of the tags cannot be set again by the groups
within them. -/
theorem Pattern.Node.isTagSequence_ofExpr {e : Expr} (h : e.isTagSequence)
    (hnodup : e.names.Nodup) : (Node.ofExpr e).isTagSequence := by
  obtain ⟨opening, body, closing, rfl⟩ := e.exists_of_isTagSequence h
  have hnames : ("open" :: opening.names ++ ("body" :: body.names ++ closing.names)).Nodup :=
    hnodup
  simp only [List.cons_append, List.nodup_cons, List.nodup_append, List.mem_append,
    List.mem_cons, not_or] at hnames
  refine isTagSequence_iff.mpr ⟨_, _, _, rfl, ?_, ?_, ?_⟩
  · exact fun hmem => hnames.1.2.2.1 (names_build_subset body _ _ hmem)
  · exact fun hmem => hnames.1.2.2.2 (names_build_subset closing _ _ hmem)
  · exact fun hmem => hnames.2.2.1.1.2 (names_build_subset closing _ _ hmem)

theorem RegionFinder.exists_isTagSequence_of_readsAsGroups {tags : TagPatterns}
    (h : tags.readsAsGroups) :
    ∃ finder, ofTags tags = .ok finder ∧ finder.pattern.isTagSequence := by
  obtain ⟨e, hread, hsequence⟩ := (Option.any_eq_true _ _).mp h
  have hcompile := congrArg (Option.map Node.ofExpr) hread
  rw [← compile, Option.map_some] at hcompile
  rw [ofTags, hcompile]
  exact ⟨_, rfl, Node.isTagSequence_ofExpr hsequence (nodup_names_of_readExpr hread)⟩

/-! ## Offsets -/

/-- A snippet is cut out of the host text by its offsets: the opening tag and the body by the one,
the body alone by the other. -/
structure Snippet.StandsIn (s : Snippet) (host : Text) : Prop where
  slice_offset : host.slice? s.offset (s.openTag.byteLength + s.body.byteLength) =
    some (s.openTag ++ s.body)
  slice_bodyOffset : host.slice? s.bodyOffset s.body.byteLength = some s.body
  isBoundary_bodyOffset : host.isBoundary s.bodyOffset

theorem Snippet.Placed.standsIn {s : Snippet} {host front back : Text}
    (h : s.Placed host front back) : s.StandsIn host := by
  obtain ⟨rfl, hfront, before, rfl⟩ := h
  have hbefore : Text.byteLength before = s.offset := by
    rw [Text.byteLength_append, bodyOffset] at hfront
    omega
  refine ⟨?_, ?_, ?_⟩
  · have hslice := Text.slice?_append before (s.openTag ++ s.body) back
    rwa [hbefore, Text.byteLength_append, ← List.append_assoc before] at hslice
  · rw [← hfront]
    exact Text.slice?_append _ _ _
  · rw [← hfront, List.append_assoc]
    exact Text.isBoundary_append _ _

theorem Region.LaidOut.body_le_stop {r : Region} {bodyStart bodyStop : Cursor}
    (h : r.LaidOut bodyStart bodyStop) :
    r.snippet.bodyOffset + r.body.byteLength ≤ r.stop.offset := by
  have hopen := h.openTag_reads.offset_eq
  have hbody := h.body_reads.offset_eq
  have hstop := h.leads_stop.offset_le
  simp only [snippet, Snippet.bodyOffset]
  omega

/-- A snippet of an aligned finder starts behind the bodies of those in front of it. -/
theorem RegionFinder.pairwise_body_le_offset {finder : RegionFinder} {host : Text}
    (haligned : finder.AlignedIn host) :
    (finder.snippets host).Pairwise fun s next =>
      s.bodyOffset + s.body.byteLength ≤ next.offset := by
  obtain ⟨places, hthrough⟩ := finder.exists_searchesThrough host
  rw [snippets, List.pairwise_map]
  refine hthrough.spans_apart.imp_of_mem ?_
  intro r next hr hnext hapart
  obtain ⟨c, hc, hfind⟩ := hthrough.exists_find_of_mem (finder.findsAhead host) r hr
  obtain ⟨-, bodyStart, bodyStop, hlaid⟩ := exists_laidOut_of_find haligned hc hfind
  exact Nat.le_trans hlaid.body_le_stop hapart

/-- Whatever a pattern was read from, and whatever stands in its groups: if it is made of the
opening tag, the body and a rest, every snippet of every text stands where its offsets say, and
behind the bodies of those in front of it. -/
theorem RegionFinder.standIn_of_isTagSequence {finder : RegionFinder}
    (h : finder.pattern.isTagSequence) (host : Text) :
    (∀ s ∈ finder.snippets host, s.StandsIn host) ∧
      (finder.snippets host).Pairwise fun s next =>
        s.bodyOffset + s.body.byteLength ≤ next.offset := by
  have haligned := alignedIn_of_isTagSequence h host
  refine ⟨?_, pairwise_body_le_offset haligned⟩
  intro s hs
  obtain ⟨front, back, hplaced⟩ := (placedInOrder_snippets haligned).exists_placed hs
  exact hplaced.standsIn

/-- When the tags are read as groups, every snippet of every text stands where its offsets say,
and behind the bodies of those in front of it. -/
theorem RegionFinder.snippets_standIn {tags : TagPatterns} (h : tags.readsAsGroups) :
    ∃ finder, ofTags tags = .ok finder ∧ ∀ host,
      (∀ s ∈ finder.snippets host, s.StandsIn host) ∧
      (finder.snippets host).Pairwise fun s next =>
        s.bodyOffset + s.body.byteLength ≤ next.offset := by
  obtain ⟨finder, hfinder, hsequence⟩ := exists_isTagSequence_of_readsAsGroups h
  exact ⟨finder, hfinder, standIn_of_isTagSequence hsequence⟩

/-- Tags with groups, an alternation, repetitions and a flag of their own. -/
def TagPatterns.angles : TagPatterns where
  opening := "(<|é)+"
  closing := "(?:>|$)"
  body := "(?s).*?"

theorem RegionFinder.snippets_standIn_angles :
    TagPatterns.readsAsGroups {} ∧ TagPatterns.angles.readsAsGroups ∧
      ∃ finder, ofTags .angles = .ok finder ∧
        finder.snippets "xé<<ab>é\ny".toList =
          [⟨"é<<".toList, "ab".toList, 1⟩, ⟨"é".toList, "\ny".toList, 8⟩] ∧
        ∀ s ∈ finder.snippets "xé<<ab>é\ny".toList, s.StandsIn "xé<<ab>é\ny".toList := by
  have hgroups : TagPatterns.angles.readsAsGroups := by decide +kernel
  obtain ⟨finder, hfinder, hstands⟩ := snippets_standIn hgroups
  have hsnippets : (ofTags .angles).toOption.map (·.snippets "xé<<ab>é\ny".toList) =
      some [⟨"é<<".toList, "ab".toList, 1⟩, ⟨"é".toList, "\ny".toList, 8⟩] := by
    decide +kernel
  rw [hfinder] at hsnippets
  exact ⟨by decide +kernel, hgroups, finder, hfinder, Option.some.inj hsnippets,
    (hstands _).1⟩

end Excerpt
