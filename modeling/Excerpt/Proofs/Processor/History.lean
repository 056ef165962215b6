import Excerpt.Proofs.FirstOccurrences
import Excerpt.Proofs.Processor.Remapping
import Excerpt.Proofs.Region.DefaultTags

/-! # What a processor remembers

A processor is called again and again, for many documents and in any order. What it knows about a
document is what the last extraction of that document left. -/

namespace Excerpt

/-! ## Runs of calls -/

/-- A call of a processor. -/
inductive Call where
  | extract (host : Text) (document : DocumentId)
  | remap (diagnostics : List Diagnostic) (document : DocumentId)
  | remapResult (result : AnalysisResult) (document : DocumentId)

namespace Call

/-- The document and the host text of an extraction. -/
def extraction? : Call → Option (DocumentId × Text)
  | .extract host document => some (document, host)
  | .remap _ _ => none
  | .remapResult _ _ => none

/-- The extractions of a run, from the first to the last. -/
def extractions (calls : List Call) : List (DocumentId × Text) :=
  calls.filterMap extraction?

/-- The host text of the last extraction of a document. -/
def lastHost? (calls : List Call) (document : DocumentId) : Option Text :=
  (extractions calls).reverse.lookup document

theorem extractions_concat_of_none {call : Call} (h : call.extraction? = none)
    (calls : List Call) : extractions (calls ++ [call]) = extractions calls := by
  simp [extractions, h]

theorem extractions_concat_extract (calls : List Call) (host : Text) (document : DocumentId) :
    extractions (calls ++ [.extract host document]) = extractions calls ++ [(document, host)] := by
  simp [extractions, extraction?]

theorem lastHost?_concat_of_none {call : Call} (h : call.extraction? = none) (calls : List Call)
    (document : DocumentId) : lastHost? (calls ++ [call]) document = lastHost? calls document := by
  rw [lastHost?, extractions_concat_of_none h, lastHost?]

theorem lastHost?_concat_extract (calls : List Call) (host : Text) (document other : DocumentId) :
    lastHost? (calls ++ [.extract host document]) other =
      if other = document then some host else lastHost? calls other := by
  rw [lastHost?, extractions_concat_extract, List.reverse_concat, List.lookup_cons, lastHost?]
  by_cases h : other = document
  · simp [h]
  · have hne : (other == document) = false := by simpa using h
    simp [h, hne]

/-- A document has no last host exactly when no call extracts it. -/
theorem lastHost?_eq_none_iff (calls : List Call) (document : DocumentId) :
    lastHost? calls document = none ↔ ∀ host, .extract host document ∉ calls := by
  rw [lastHost?, List.lookup_eq_none_iff]
  constructor
  · intro h host hmem
    have hpair : (document, host) ∈ (extractions calls).reverse :=
      List.mem_reverse.mpr (List.mem_filterMap.mpr ⟨_, hmem, rfl⟩)
    simpa using h _ hpair
  · intro h pair hpair
    obtain ⟨call, hcall, hpair⟩ := List.mem_filterMap.mp (List.mem_reverse.mp hpair)
    cases call with
    | extract host other =>
      obtain rfl := Option.some.inj hpair
      have hne : document ≠ other := fun he => h host (he ▸ hcall)
      simpa using hne
    | remap => simp [extraction?] at hpair
    | remapResult => simp [extraction?] at hpair

end Call

namespace Processor

/-- The processor behind a call. Only an extraction leaves something in it. -/
def after (p : Processor) : Call → Processor
  | .extract host document => (p.extract host document).2
  | .remap _ _ => p
  | .remapResult _ _ => p

/-- The processor behind a run of calls. -/
def run (p : Processor) (calls : List Call) : Processor :=
  calls.foldl after p

/-! ## The store behind a run -/

/-- A processor that differs from a fresh one only by what a run of calls has left in its store. -/
structure Remembers (p fresh : Processor) (calls : List Call) : Prop where
  config_eq : p.config = fresh.config
  finder_eq : p.finder = fresh.finder
  filter_eq : p.filter = fresh.filter
  documents_eq : p.store.documents =
    (((Call.extractions calls).map Prod.fst).filter fresh.accepts).eraseDups
  get?_eq : ∀ document, p.store.get? document =
    if fresh.accepts document then
      (Call.lastHost? calls document).map fun host => ⟨(fresh.synthesize host).origins⟩
    else none

theorem Remembers.accepts_eq {p fresh : Processor} {calls : List Call}
    (h : p.Remembers fresh calls) (document : DocumentId) :
    p.accepts document = fresh.accepts document := by
  rw [accepts, accepts, h.filter_eq]

theorem Remembers.synthesize_eq {p fresh : Processor} {calls : List Call}
    (h : p.Remembers fresh calls) (host : Text) : p.synthesize host = fresh.synthesize host := by
  rw [synthesize, synthesize, h.finder_eq]

/-- A call that extracts nothing leaves everything as it was. -/
theorem Remembers.concat_of_none {p fresh : Processor} {calls : List Call} {call : Call}
    (h : p.Remembers fresh calls) (hcall : call.extraction? = none) :
    p.Remembers fresh (calls ++ [call]) where
  config_eq := h.config_eq
  finder_eq := h.finder_eq
  filter_eq := h.filter_eq
  documents_eq := by rw [Call.extractions_concat_of_none hcall, h.documents_eq]
  get?_eq document := by rw [Call.lastHost?_concat_of_none hcall, h.get?_eq]

/-- An extraction replaces the map of its document, or leaves everything as it was. -/
theorem Remembers.extract {p fresh : Processor} {calls : List Call}
    (h : p.Remembers fresh calls) (host : Text) (document : DocumentId) :
    (p.extract host document).2.Remembers fresh (calls ++ [.extract host document]) := by
  cases hacc : fresh.accepts document with
  | false =>
    have hp : (p.extract host document).2 = p := by
      simp [Processor.extract, h.accepts_eq, hacc]
    rw [hp]
    refine ⟨h.config_eq, h.finder_eq, h.filter_eq, ?_, ?_⟩
    · simp [Call.extractions_concat_extract, hacc, h.documents_eq]
    · intro other
      rw [h.get?_eq, Call.lastHost?_concat_extract]
      by_cases he : other = document
      · simp [he, hacc]
      · simp [he]
  | true =>
    have hp : (p.extract host document).2 =
        { p with store := p.store.insert document ⟨(fresh.synthesize host).origins⟩ } := by
      simp [Processor.extract, h.accepts_eq, hacc, h.synthesize_eq]
    rw [hp]
    refine ⟨h.config_eq, h.finder_eq, h.filter_eq, ?_, ?_⟩
    · rw [MapStore.documents_insert, h.documents_eq, Call.extractions_concat_extract,
        List.map_append, List.filter_append]
      simp [hacc, eraseDups_concat]
    · intro other
      rw [MapStore.get?_insert, h.get?_eq, Call.lastHost?_concat_extract]
      by_cases he : other = document
      · simp [he, hacc]
      · simp [he]

theorem Remembers.after {p fresh : Processor} {calls : List Call} (h : p.Remembers fresh calls)
    (call : Call) : (p.after call).Remembers fresh (calls ++ [call]) := by
  cases call with
  | extract host document => exact h.extract host document
  | remap diagnostics document => exact h.concat_of_none rfl
  | remapResult result document => exact h.concat_of_none rfl

theorem Remembers.run {p fresh : Processor} {earlier : List Call} (h : p.Remembers fresh earlier)
    (calls : List Call) : (p.run calls).Remembers fresh (earlier ++ calls) := by
  induction calls generalizing p earlier with
  | nil => simpa [Processor.run] using h
  | cons call calls ih =>
    have hrest := ih (h.after call)
    rw [List.append_assoc] at hrest
    exact hrest

theorem remembers_nil {fresh : Processor} (h : fresh.store = .empty) :
    fresh.Remembers fresh [] where
  config_eq := rfl
  finder_eq := rfl
  filter_eq := rfl
  documents_eq := by simp [h, MapStore.empty, MapStore.documents, Call.extractions]
  get?_eq document := by simp [h, MapStore.empty, MapStore.get?, Call.lastHost?, Call.extractions]

theorem store_of_ofConfig {config : Config} {fresh : Processor}
    (h : ofConfig config = .ok fresh) : fresh.store = .empty := by
  unfold ofConfig at h
  cases hfinder : RegionFinder.ofTags config.tags with
  | error e => simp [hfinder, bind, Except.bind] at h
  | ok finder =>
    cases hfilter : FileFilter.ofPolicy config.filter with
    | error e => simp [hfinder, hfilter, bind, Except.bind] at h
    | ok filter =>
      simp only [hfinder, hfilter, bind, Except.bind, pure, Except.pure, Except.ok.injEq] at h
      rw [← h]

/-- A fresh processor behind the last extraction of a document, without any other call. -/
def afterLast (fresh : Processor) (calls : List Call) (document : DocumentId) : Processor :=
  match Call.lastHost? calls document with
  | none => fresh
  | some host => (fresh.extract host document).2

theorem remembers_afterLast {fresh : Processor} (h : fresh.store = .empty) (calls : List Call)
    (document : DocumentId) :
    ∃ alone, (fresh.afterLast calls document).Remembers fresh alone ∧
      Call.lastHost? alone document = Call.lastHost? calls document := by
  have hfresh := remembers_nil h
  unfold afterLast
  cases hhost : Call.lastHost? calls document with
  | none => exact ⟨[], hfresh, rfl⟩
  | some host =>
    refine ⟨[.extract host document], hfresh.extract host document, ?_⟩
    simpa using Call.lastHost?_concat_extract [] host document document

/-! ## What can be seen of it -/

theorem remap_congr {p q : Processor} {document : DocumentId} (hconfig : p.config = q.config)
    (hfilter : p.filter = q.filter) (hmap : p.lineMap? document = q.lineMap? document)
    (diagnostics : List Diagnostic) :
    p.remap diagnostics document = q.remap diagnostics document := by
  rw [remap, remap, accepts, accepts, hconfig, hfilter, hmap]

theorem remap_eq_unknownDocument_iff (p : Processor) (diagnostics : List Diagnostic)
    (document : DocumentId) :
    p.remap diagnostics document = .error (.unknownDocument document) ↔
      p.accepts document ∧ p.lineMap? document = none := by
  simp [remap_eq_error_iff]

/-- What a processor shows of a run of calls. The documents are the accepted ones, each where it
was extracted first. About every document it knows what a fresh processor knows behind the last
extraction of that document alone. -/
structure Reflects (p fresh : Processor) (calls : List Call) : Prop where
  documents_eq : p.store.documents =
    (((Call.extractions calls).map Prod.fst).filter fresh.accepts).eraseDups
  documents_nodup : p.store.documents.Nodup
  lineMap?_eq : ∀ document, p.lineMap? document = (fresh.afterLast calls document).lineMap? document
  lineMap?_eq_none_iff : ∀ document, p.lineMap? document = none ↔
    fresh.accepts document = false ∨ ∀ host, .extract host document ∉ calls
  remap_eq : ∀ diagnostics document,
    p.remap diagnostics document = (fresh.afterLast calls document).remap diagnostics document
  remapResult_eq : ∀ result document,
    p.remapResult result document = (fresh.afterLast calls document).remapResult result document
  remap_unknown_iff : ∀ diagnostics document,
    p.remap diagnostics document = .error (.unknownDocument document) ↔
      fresh.accepts document ∧ ∀ host, .extract host document ∉ calls

theorem Remembers.lineMap?_eq_none_iff {p fresh : Processor} {calls : List Call}
    (h : p.Remembers fresh calls) (document : DocumentId) :
    p.lineMap? document = none ↔
      fresh.accepts document = false ∨ ∀ host, .extract host document ∉ calls := by
  rw [lineMap?, h.get?_eq, ← Call.lastHost?_eq_none_iff]
  cases fresh.accepts document <;> simp

theorem Remembers.reflects {p fresh : Processor} {calls : List Call} (h : p.Remembers fresh calls)
    (hfresh : fresh.store = .empty) : p.Reflects fresh calls := by
  have hmap : ∀ document,
      p.lineMap? document = (fresh.afterLast calls document).lineMap? document := by
    intro document
    obtain ⟨alone, halone, hhost⟩ := remembers_afterLast hfresh calls document
    rw [lineMap?, lineMap?, h.get?_eq, halone.get?_eq, hhost]
  have hremap : ∀ diagnostics document, p.remap diagnostics document =
      (fresh.afterLast calls document).remap diagnostics document := by
    intro diagnostics document
    obtain ⟨alone, halone, -⟩ := remembers_afterLast hfresh calls document
    exact remap_congr (h.config_eq.trans halone.config_eq.symm)
      (h.filter_eq.trans halone.filter_eq.symm) (hmap document) diagnostics
  refine ⟨h.documents_eq, ?_, hmap, h.lineMap?_eq_none_iff, hremap, ?_, ?_⟩
  · rw [h.documents_eq]
    exact nodup_eraseDups _
  · intro result document
    rw [remapResult, remapResult, hremap]
  · intro diagnostics document
    rw [remap_eq_unknownDocument_iff, h.lineMap?_eq_none_iff, h.accepts_eq]
    cases fresh.accepts document <;> simp

/-- Whatever a processor was asked, in any order, it shows of it what its last extractions left. -/
theorem run_reflects {config : Config} {fresh : Processor} (h : ofConfig config = .ok fresh)
    (calls : List Call) : (fresh.run calls).Reflects fresh calls := by
  have hstore := store_of_ofConfig h
  have hrun : (fresh.run calls).Remembers fresh calls := (remembers_nil hstore).run calls
  exact hrun.reflects hstore

/-- The processor of the default tags for one suffix, before it has extracted anything. -/
def forVue : Processor :=
  ⟨{ filter := .suffixes [".vue"] }, RegionFinder.default, .suffixes [".vue"], .empty⟩

/-- One document extracted twice, one in between, a rejected one, and diagnostics moved. -/
def vueCalls : List Call :=
  [.extract "<style>a</style>".toList ⟨"b.vue"⟩, .extract "<p>".toList ⟨"page.html"⟩,
    .extract [] ⟨"a.vue"⟩, .remap [] ⟨"c.vue"⟩, .extract "\n<style>b</style>".toList ⟨"b.vue"⟩]

theorem ofConfig_forVue : ofConfig { filter := .suffixes [".vue"] } = .ok forVue := by
  simp only [ofConfig, RegionFinder.ofTags_default]
  rfl

theorem run_reflects_vueCalls :
    ofConfig { filter := .suffixes [".vue"] } = .ok forVue ∧
      (forVue.run vueCalls).Reflects forVue vueCalls ∧
      (forVue.run vueCalls).store.documents = [⟨"b.vue"⟩, ⟨"a.vue"⟩] ∧
      (forVue.run vueCalls).lineMap? ⟨"b.vue"⟩ = some ⟨[⟨2, 0⟩]⟩ := by
  refine ⟨ofConfig_forVue, run_reflects ofConfig_forVue vueCalls, ?_, ?_⟩
  · decide +kernel
  · decide +kernel

end Processor

end Excerpt
