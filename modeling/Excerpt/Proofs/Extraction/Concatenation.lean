import Excerpt.Proofs.Extraction.Tracing
import Excerpt.Proofs.Region.StyleJoin
import Mathlib.Data.List.Basic

/-! # Extraction of joined texts

The synthetic document of two texts with a line break between them is made of their two synthetic
documents, if the first text leaves no tag open. The lines of the second one keep their origins,
further down by the lines of the first text. -/

namespace Excerpt

open Text

/-- The origin of a line behind some more lines of the host. -/
def LineOrigin.shift (lines : Nat) (origin : LineOrigin) : LineOrigin :=
  { origin with hostLine := origin.hostLine + lines }

theorem map_shift_consecutiveOrigins (startLine indentColumns count lines : Nat) :
    (consecutiveOrigins startLine indentColumns count).map (LineOrigin.shift lines) =
      consecutiveOrigins (startLine + lines) indentColumns count := by
  simp only [consecutiveOrigins, List.map_map]
  refine List.map_congr_left fun i _ => ?_
  simp only [Function.comp_apply, LineOrigin.shift, Nat.add_right_comm]

namespace Snippet

@[simp] theorem written_shift (bytes : Nat) (s : Snippet) : (s.shift bytes).written = s.written :=
  rfl

theorem flatMap_written_map_shift (bytes : Nat) (snippets : List Snippet) :
    (snippets.map (shift bytes)).flatMap written = snippets.flatMap written := by
  simp [List.flatMap_map]

theorem filter_map_shift (bytes : Nat) (snippets : List Snippet) :
    (snippets.map (shift bytes)).filter isKept = (snippets.filter isKept).map (shift bytes) := by
  rw [List.filter_map]
  rfl

/-! ## Placed snippets -/

theorem Placed.append {s : Snippet} {host front back : Text} (h : s.Placed host front back)
    (more : Text) : s.Placed (host ++ more) front (back ++ more) where
  host_eq := by rw [h.host_eq, List.append_assoc]
  byteLength_front := h.byteLength_front
  openTag_suffix := h.openTag_suffix

theorem Placed.shift {s : Snippet} {host front back : Text} (h : s.Placed host front back)
    (more : Text) : (s.shift more.byteLength).Placed (more ++ host) (more ++ front) back where
  host_eq := by
    rw [h.host_eq]
    simp [Snippet.shift]
  byteLength_front := by
    rw [byteLength_append, h.byteLength_front, bodyOffset, bodyOffset, ← Nat.add_assoc]
    rfl
  openTag_suffix := h.openTag_suffix.trans (List.suffix_append more front)

/-- What follows the host text does not move a line. -/
theorem Placed.origins_append {s : Snippet} {host front back : Text} (h : s.Placed host front back)
    (more : Text) : s.origins (host ++ more) = s.origins host := by
  rw [origins, origins, (h.append more).firstHostLine_eq, h.firstHostLine_eq]

/-- What comes before the host text moves every line by its breaks. -/
theorem Placed.origins_shift {s : Snippet} {host front back : Text} (h : s.Placed host front back)
    (more : Text) :
    (s.shift more.byteLength).origins (more ++ host) =
      (s.origins host).map (LineOrigin.shift more.breaks) := by
  have hline : (s.shift more.byteLength).firstHostLine (more ++ host) =
      s.firstHostLine host + more.breaks := by
    rw [(h.shift more).firstHostLine_eq, h.firstHostLine_eq, breaks_append]
    simp only [Snippet.shift]
    omega
  rw [origins, origins, hline, map_shift_consecutiveOrigins]
  rfl

theorem flatMap_origins_append {snippets : List Snippet} {host : Text}
    (h : ∀ s ∈ snippets, ∃ front back, s.Placed host front back) (more : Text) :
    (snippets.flatMap fun s => s.origins (host ++ more)) =
      snippets.flatMap fun s => s.origins host := by
  refine List.flatMap_congr fun s hs => ?_
  obtain ⟨front, back, hplaced⟩ := h s hs
  exact hplaced.origins_append more

theorem flatMap_origins_map_shift {snippets : List Snippet} {host : Text}
    (h : ∀ s ∈ snippets, ∃ front back, s.Placed host front back) (more : Text) :
    ((snippets.map (shift more.byteLength)).flatMap fun s => s.origins (more ++ host)) =
      (snippets.flatMap fun s => s.origins host).map (LineOrigin.shift more.breaks) := by
  rw [List.flatMap_map, List.map_flatMap]
  refine List.flatMap_congr fun s hs => ?_
  obtain ⟨front, back, hplaced⟩ := h s hs
  exact hplaced.origins_shift more

end Snippet

namespace Processor

theorem keptSnippets_append_break {p : Processor} {first : Text} (hfinder : p.finder = .default)
    (hfirst : p.finder.Settles first) (second : Text) :
    p.keptSnippets (first ++ '\n' :: second) = p.keptSnippets first ++
      (p.keptSnippets second).map (Snippet.shift (byteLength (first ++ ['\n']))) := by
  rw [hfinder] at hfirst
  simp only [keptSnippets, hfinder, RegionFinder.snippets_default_append_break hfirst second,
    List.filter_append, Snippet.filter_map_shift]

/-- The synthetic document of two texts with a line break between them. -/
theorem extract_append_break (p : Processor) (first second : Text) (document : DocumentId)
    (htags : RegionFinder.ofTags {} = .ok p.finder) (haccepts : p.accepts document)
    (hfirst : p.finder.Settles first) :
    ∃ map map', (p.extract first document).2.lineMap? document = some map ∧
      (p.extract second document).2.lineMap? document = some map' ∧
      (p.extract (first ++ '\n' :: second) document).1 =
        (p.extract first document).1 ++ (p.extract second document).1 ∧
      (p.extract (first ++ '\n' :: second) document).2.lineMap? document =
        some ⟨map.origins ++ map'.origins.map (LineOrigin.shift (1 + first.breaks))⟩ := by
  have hfinder : p.finder = .default :=
    Except.ok.inj (htags.symm.trans RegionFinder.ofTags_default)
  have hplaced : ∀ host, ∀ s ∈ p.keptSnippets host, ∃ front back, s.Placed host front back := by
    intro host
    apply exists_placed_of_mem_keptSnippets
    rw [hfinder]
    exact RegionFinder.alignedIn_default host
  have hkept := keptSnippets_append_break hfinder hfirst second
  refine ⟨_, _, lineMap?_extract haccepts first, lineMap?_extract haccepts second, ?_, ?_⟩
  · simp only [extract_fst haccepts, hkept, List.flatMap_append, Snippet.flatMap_written_map_shift]
  · have hfront := Snippet.flatMap_origins_append (hplaced first) ('\n' :: second)
    have hback := Snippet.flatMap_origins_map_shift (hplaced second) (first ++ ['\n'])
    rw [List.append_assoc, List.singleton_append, breaks_append, Nat.add_comm] at hback
    rw [lineMap?_extract haccepts, hkept, List.flatMap_append, hfront, hback]
    rfl

/-- A quoted tag, which is no snippet, and then one with a body. -/
def quotedPage : Text :=
  "'<style>'\n<style> a</style>".toList

/-- A tag at the very start. -/
def styledPage : Text :=
  "<style>\n\tb</style>".toList

theorem extract_append_break_quotedPage :
    RegionFinder.ofTags {} = .ok Processor.default.finder ∧
      Processor.default.accepts ⟨"page.html"⟩ ∧ Processor.default.finder.Settles quotedPage ∧
      (Processor.default.extract (quotedPage ++ '\n' :: styledPage) ⟨"page.html"⟩).1 =
        "a\nb\n".toList ∧
      (Processor.default.extract (quotedPage ++ '\n' :: styledPage) ⟨"page.html"⟩).2.lineMap?
        ⟨"page.html"⟩ = some ⟨[⟨2, 1⟩, ⟨4, 1⟩]⟩ := by
  have hsettles : Processor.default.finder.Settles quotedPage := by
    decide +kernel
  have hquoted : Processor.default.extract quotedPage ⟨"page.html"⟩ = ("a\n".toList,
      { Processor.default with store := ⟨[(⟨"page.html"⟩, ⟨[⟨2, 1⟩]⟩)]⟩ }) := by
    decide +kernel
  have hstyled : Processor.default.extract styledPage ⟨"page.html"⟩ = ("b\n".toList,
      { Processor.default with store := ⟨[(⟨"page.html"⟩, ⟨[⟨2, 1⟩]⟩)]⟩ }) := by
    decide +kernel
  obtain ⟨map, map', hmap, hmap', htext, hjoined⟩ := extract_append_break .default quotedPage
    styledPage ⟨"page.html"⟩ RegionFinder.ofTags_default rfl hsettles
  refine ⟨RegionFinder.ofTags_default, rfl, hsettles, ?_, ?_⟩
  · rw [htext, hquoted, hstyled]
    rfl
  · rw [hquoted] at hmap
    rw [hstyled] at hmap'
    obtain rfl := Option.some.inj hmap
    obtain rfl := Option.some.inj hmap'
    rw [hjoined]
    rfl

end Processor

end Excerpt
