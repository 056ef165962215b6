import Excerpt.Proofs.Extraction.Tracing

/-! # The shape of a line map

The line map has an entry for every line of the synthetic document. Its host lines run through the
host text from top to bottom, without a gap inside a snippet. -/

namespace Excerpt

open Text

/-! ## The lines of one snippet -/

theorem hostLines_consecutiveOrigins (startLine indentColumns count : Nat) :
    (consecutiveOrigins startLine indentColumns count).map LineOrigin.hostLine =
      List.range' startLine count := by
  rw [consecutiveOrigins, List.map_map, List.range'_eq_map_range]
  rfl

/-- The lines of a snippet lie between the start and the end of its body. -/
theorem Snippet.Placed.hostLine_bounds {s : Snippet} {host front back : Text}
    (h : s.Placed host front back) {origin : LineOrigin} (horigin : origin ∈ s.origins host) :
    1 + front.breaks ≤ origin.hostLine ∧ origin.hostLine ≤ 1 + breaks (front ++ s.body) := by
  obtain ⟨j, hj⟩ := List.mem_iff_getElem?.mp horigin
  obtain ⟨hlt, rfl⟩ := Snippet.getElem?_origins hj
  obtain ⟨lead, trail, hparts⟩ := exists_frameParts s.body
  have hbody := hparts.breaks_eq
  simp only [h.firstHostLine_eq, breaks_append]
  rw [Snippet.lineCount] at hlt
  omega

theorem Snippet.pairwise_origins (s : Snippet) (host : Text) :
    (s.origins host).Pairwise fun a b => a.hostLine ≤ b.hostLine := by
  rw [← List.pairwise_map, Snippet.origins, hostLines_consecutiveOrigins]
  exact List.pairwise_le_range'

/-! ## The lines of all snippets -/

/-- Snippets in order have their lines between what stands in front of them and the end. -/
theorem PlacedInOrder.hostLine_bounds {host done : Text} {snippets : List Snippet}
    (h : PlacedInOrder host done snippets) :
    ∀ origin ∈ snippets.flatMap fun s => s.origins host,
      1 + done.breaks ≤ origin.hostLine ∧ origin.hostLine ≤ 1 + host.breaks := by
  induction snippets generalizing done with
  | nil => simp
  | cons s rest ih =>
    obtain ⟨front, back, hplaced, hdone, hrest⟩ := h
    have hfront := breaks_le_of_isPrefix hdone
    have hbody := breaks_le_of_isPrefix (List.prefix_append front s.body)
    have hhost : breaks (front ++ s.body) ≤ host.breaks :=
      breaks_le_of_isPrefix ⟨back, hplaced.host_eq.symm⟩
    intro origin horigin
    rw [List.flatMap_cons] at horigin
    rcases List.mem_append.mp horigin with horigin | horigin
    · have hbounds := hplaced.hostLine_bounds horigin
      omega
    · have hbounds := ih hrest origin horigin
      omega

theorem PlacedInOrder.pairwise_origins {host done : Text} {snippets : List Snippet}
    (h : PlacedInOrder host done snippets) :
    (snippets.flatMap fun s => s.origins host).Pairwise fun a b => a.hostLine ≤ b.hostLine := by
  induction snippets generalizing done with
  | nil => exact .nil
  | cons s rest ih =>
    obtain ⟨front, back, hplaced, -, hrest⟩ := h
    rw [List.flatMap_cons]
    refine List.pairwise_append.mpr ⟨s.pairwise_origins host, ih hrest, ?_⟩
    -- the end of the body separates the lines of this snippet from all later ones
    intro a ha b hb
    exact Nat.le_trans (hplaced.hostLine_bounds ha).2 (hrest.hostLine_bounds b hb).1

/-! ## The whole map -/

/-- The line map `map` of a synthetic document `text`, made of the snippets of a host text. -/
structure MapShape (snippets : List Snippet) (host text : Text) (map : LineMap) : Prop where
  size_eq_breaks : map.size = text.breaks
  ends_with_break : text = [] ∨ text.getLast? = some '\n'
  size_eq_totalLines : map.size =
    Snippet.totalLines (snippets.filter fun s => !s.body.isBlank)
  hostLines_eq : map.origins.map LineOrigin.hostLine =
    (snippets.filter fun s => !s.body.isBlank).flatMap fun s =>
      List.range' (s.firstHostLine host) (1 + (frame s.body).text.breaks)
  sorted : map.origins.Pairwise fun a b => a.hostLine ≤ b.hostLine
  bounds : ∀ origin ∈ map.origins, 1 ≤ origin.hostLine ∧ origin.hostLine ≤ 1 + host.breaks

theorem hostLines_flatMap_origins (snippets : List Snippet) (host : Text) :
    (snippets.flatMap fun s => s.origins host).map LineOrigin.hostLine =
      snippets.flatMap fun s => List.range' (s.firstHostLine host) s.lineCount := by
  rw [List.map_flatMap]
  simp only [Snippet.origins, hostLines_consecutiveOrigins]

/-- The stored map fits the returned text and runs through the host text in order. -/
theorem Processor.extract_mapShape (p : Processor) (host : Text) (document : DocumentId)
    (haccepts : p.accepts document) (haligned : p.finder.AlignedIn host) :
    ∃ map, (p.extract host document).2.lineMap? document = some map ∧
      MapShape (p.finder.snippets host) host (p.extract host document).1 map := by
  have hplaced : PlacedInOrder host [] (p.keptSnippets host) :=
    (RegionFinder.placedInOrder_snippets haligned).filter _
  have hsize := Snippet.length_flatMap_origins (p.keptSnippets host) host
  refine ⟨_, lineMap?_extract haccepts host, ?_⟩
  rw [extract_fst haccepts]
  exact {
    size_eq_breaks := by
      rw [Snippet.breaks_flatMap_written]
      exact hsize
    ends_with_break := by
      rcases Snippet.flatMap_written_eq (p.keptSnippets host) with hnil | ⟨front, hfront⟩
      · exact .inl hnil
      · right
        rw [hfront]
        exact List.getLast?_concat
    size_eq_totalLines := hsize
    hostLines_eq := hostLines_flatMap_origins _ host
    sorted := hplaced.pairwise_origins
    bounds := by
      simpa using hplaced.hostLine_bounds }

/-- Two snippets and a blank one on one line, the last one with a blank line at its end. -/
theorem Processor.extract_mapShape_one_line :
    Processor.ofConfig {} = .ok .default ∧ Processor.default.accepts ⟨"page.html"⟩ ∧
      Processor.default.finder.AlignedIn
        "<style>a</style><style> </style><style>\n b\n\n</style>".toList ∧
      MapShape
        (Processor.default.finder.snippets
          "<style>a</style><style> </style><style>\n b\n\n</style>".toList)
        "<style>a</style><style> </style><style>\n b\n\n</style>".toList
        "a\nb\n\n".toList ⟨[⟨1, 0⟩, ⟨2, 1⟩, ⟨3, 1⟩]⟩ := by
  have haligned := RegionFinder.alignedIn_default
    "<style>a</style><style> </style><style>\n b\n\n</style>".toList
  refine ⟨ofConfig_default, rfl, haligned, ?_⟩
  obtain ⟨map, hmap, hshape⟩ := extract_mapShape .default _ ⟨"page.html"⟩ rfl haligned
  have hstored : (Processor.default.extract
      "<style>a</style><style> </style><style>\n b\n\n</style>".toList
      ⟨"page.html"⟩).2.lineMap? ⟨"page.html"⟩ = some ⟨[⟨1, 0⟩, ⟨2, 1⟩, ⟨3, 1⟩]⟩ := by
    decide +kernel
  have htext : (Processor.default.extract
      "<style>a</style><style> </style><style>\n b\n\n</style>".toList ⟨"page.html"⟩).1 =
      "a\nb\n\n".toList := by
    decide +kernel
  obtain rfl := Option.some.inj (hmap.symm.trans hstored)
  rw [htext] at hshape
  exact hshape

end Excerpt
