import Excerpt.FileFilter

/-! # Suffixes of file names

The suffix of a path is that of the name behind its last separator. What stands in front of that
name has no say in it, and so none in whether a policy of suffixes takes the path. -/

namespace Excerpt

/-! ## Names -/

/-- There is no separator of either kind. -/
def NoSeparator (t : Text) : Prop :=
  '/' ∉ t ∧ '\\' ∉ t

/-- The part of a path in front of a name. It is empty, or a separator closes it. -/
def IsFolder (t : Text) : Prop :=
  t = [] ∨ t.getLast? = some '/' ∨ t.getLast? = some '\\'

/-- A path and the name behind its last separator. -/
def EndsInName (path name : Text) : Prop :=
  ∃ folder, path = folder ++ name ∧ IsFolder folder ∧ NoSeparator name

theorem isSeparator_eq_true_iff {c : Char} : isSeparator c = true ↔ c = '/' ∨ c = '\\' := by
  simp [isSeparator]

theorem noSeparator_iff {t : Text} : NoSeparator t ↔ ∀ c ∈ t, isSeparator c = false := by
  constructor
  · intro h c hc
    rw [← Bool.not_eq_true, isSeparator_eq_true_iff]
    rintro (rfl | rfl)
    · exact h.1 hc
    · exact h.2 hc
  · intro h
    exact ⟨fun hm => absurd (h _ hm) (by decide), fun hm => absurd (h _ hm) (by decide)⟩

theorem NoSeparator.append {a b : Text} (ha : NoSeparator a) (hb : NoSeparator b) :
    NoSeparator (a ++ b) := by
  simp [NoSeparator, ha.1, ha.2, hb.1, hb.2]

theorem NoSeparator.of_append {a b : Text} (h : NoSeparator (a ++ b)) :
    NoSeparator a ∧ NoSeparator b := by
  simp only [NoSeparator, List.mem_append, not_or] at h
  exact ⟨⟨h.1.1, h.2.1⟩, h.1.2, h.2.2⟩

theorem noSeparator_fileName (path : Text) : NoSeparator (fileName path) := by
  apply noSeparator_iff.mpr
  intro c hc
  have hall : (path.reverse.takeWhile (!isSeparator ·)).all (!isSeparator ·) := List.all_takeWhile
  simpa using List.all_eq_true.mp hall c (List.mem_reverse.mp hc)

theorem exists_folder (path : Text) :
    ∃ folder, path = folder ++ fileName path ∧ IsFolder folder := by
  have hsplit := List.takeWhile_append_dropWhile (p := (!isSeparator ·)) (l := path.reverse)
  refine ⟨(path.reverse.dropWhile (!isSeparator ·)).reverse, ?_, ?_⟩
  · rw [fileName, ← List.reverse_append, hsplit, List.reverse_reverse]
  · cases hback : path.reverse.dropWhile (!isSeparator ·) with
    | nil => exact .inl rfl
    | cons mark back =>
      have hmark := List.head?_dropWhile_not (!isSeparator ·) path.reverse
      simp only [hback, List.head?_cons, Bool.not_eq_false'] at hmark
      right
      simpa [← isSeparator_eq_true_iff] using hmark

theorem fileName_append {folder name : Text} (hfolder : IsFolder folder)
    (hname : NoSeparator name) : fileName (folder ++ name) = name := by
  have hplain : ∀ c ∈ name.reverse, (!isSeparator c) = true := by
    simpa using noSeparator_iff.mp hname
  have hstop : folder.reverse.takeWhile (!isSeparator ·) = [] := by
    rcases hfolder with rfl | hlast | hlast
    · rfl
    · obtain ⟨front, rfl⟩ := List.getLast?_eq_some_iff.mp hlast
      simp [isSeparator]
    · obtain ⟨front, rfl⟩ := List.getLast?_eq_some_iff.mp hlast
      simp [isSeparator]
  rw [fileName, List.reverse_append, List.takeWhile_append_of_pos hplain, hstop]
  simp

/-- The name of a path is what stands behind its last separator. -/
theorem endsInName_iff {path name : Text} : EndsInName path name ↔ fileName path = name := by
  constructor
  · rintro ⟨folder, rfl, hfolder, hname⟩
    exact fileName_append hfolder hname
  · rintro rfl
    obtain ⟨folder, hpath, hfolder⟩ := exists_folder path
    exact ⟨folder, hpath, hfolder, noSeparator_fileName path⟩

/-! ## Suffixes -/

/-- A path as folders, a stem and a suffix. The suffix starts at the first dot of the name and has
something behind that dot. -/
structure SplitsAtSuffix (path folder stem suffix : Text) : Prop where
  path_eq : path = folder ++ stem ++ suffix
  isFolder : IsFolder folder
  stem_noDot : '.' ∉ stem
  stem_noSeparator : NoSeparator stem
  suffix_head : suffix.head? = some '.'
  suffix_length : 2 ≤ suffix.length
  suffix_noSeparator : NoSeparator suffix

/-- A name without a dot, or with nothing behind its first dot. -/
def LacksSuffix (name : Text) : Prop :=
  '.' ∉ name ∨ ∃ stem, name = stem ++ ['.'] ∧ '.' ∉ stem

theorem fileSuffix_congr {path other : Text} (h : fileName path = fileName other) :
    fileSuffix path = fileSuffix other := by
  rw [fileSuffix, fileSuffix, h]

theorem dropWhile_append_of_noDot {stem : Text} (h : '.' ∉ stem) (rest : Text) :
    (stem ++ rest).dropWhile (· != '.') = rest.dropWhile (· != '.') := by
  apply List.dropWhile_append_of_pos
  intro c hc
  have hne : c ≠ '.' := fun he => h (he ▸ hc)
  simpa using hne

theorem fileSuffix_of_not_mem {path : Text} (h : '.' ∉ fileName path) : fileSuffix path = [] := by
  have hdrop : (fileName path).dropWhile (· != '.') = [] := by
    simpa using dropWhile_append_of_noDot h []
  rw [fileSuffix, hdrop]

theorem fileSuffix_of_fileName {path stem rest : Text} (hname : fileName path = stem ++ '.' :: rest)
    (hstem : '.' ∉ stem) : fileSuffix path = if rest = [] then [] else '.' :: rest := by
  have hdrop : (fileName path).dropWhile (· != '.') = '.' :: rest := by
    rw [hname, dropWhile_append_of_noDot hstem]
    simp
  rw [fileSuffix, hdrop]
  cases rest <;> simp

theorem SplitsAtSuffix.fileSuffix_eq {path folder stem suffix : Text}
    (h : SplitsAtSuffix path folder stem suffix) : fileSuffix path = suffix := by
  obtain ⟨rest, hrest⟩ := List.head?_eq_some_iff.mp h.suffix_head
  have hname : fileName path = stem ++ '.' :: rest := by
    rw [← hrest, h.path_eq, List.append_assoc]
    exact fileName_append h.isFolder (h.stem_noSeparator.append h.suffix_noSeparator)
  have hne : rest ≠ [] := by
    rintro rfl
    simpa [hrest] using h.suffix_length
  rw [fileSuffix_of_fileName hname h.stem_noDot, if_neg hne, hrest]

/-- The name of a path has no suffix, or the path splits there. -/
theorem lacksSuffix_or_splits (path : Text) :
    LacksSuffix (fileName path) ∧ fileSuffix path = [] ∨
      ∃ folder stem, SplitsAtSuffix path folder stem (fileSuffix path) := by
  by_cases hdot : '.' ∈ fileName path
  · obtain ⟨stem, rest, hname, hstem⟩ := List.eq_append_cons_of_mem hdot
    have hsuffix := fileSuffix_of_fileName hname hstem
    by_cases hrest : rest = []
    · rw [if_pos hrest] at hsuffix
      rw [hrest] at hname
      exact .inl ⟨.inr ⟨stem, hname, hstem⟩, hsuffix⟩
    · rw [if_neg hrest] at hsuffix
      obtain ⟨folder, hpath, hfolder⟩ := exists_folder path
      have hplain := noSeparator_fileName path
      rw [hname] at hpath hplain
      right
      rw [hsuffix]
      exact ⟨folder, stem, {
        path_eq := by rw [List.append_assoc]; exact hpath
        isFolder := hfolder
        stem_noDot := hstem
        stem_noSeparator := hplain.of_append.1
        suffix_head := rfl
        suffix_length := Nat.succ_le_succ (List.length_pos_iff.mpr hrest)
        suffix_noSeparator := hplain.of_append.2 }⟩
  · exact .inl ⟨.inl hdot, fileSuffix_of_not_mem hdot⟩

theorem fileSuffix_eq_iff_splits {path suffix : Text} :
    (fileSuffix path = suffix ∧ suffix ≠ []) ↔
      ∃ folder stem, SplitsAtSuffix path folder stem suffix := by
  constructor
  · rintro ⟨rfl, hne⟩
    rcases lacksSuffix_or_splits path with ⟨-, hnil⟩ | hsplits
    · exact absurd hnil hne
    · exact hsplits
  · rintro ⟨folder, stem, h⟩
    refine ⟨h.fileSuffix_eq, ?_⟩
    rintro rfl
    simpa using h.suffix_length

theorem fileSuffix_eq_nil_iff {path : Text} :
    fileSuffix path = [] ↔ ∃ name, EndsInName path name ∧ LacksSuffix name := by
  constructor
  · intro h
    refine ⟨fileName path, endsInName_iff.mpr rfl, ?_⟩
    rcases lacksSuffix_or_splits path with ⟨hlacks, -⟩ | ⟨folder, stem, hsplits⟩
    · exact hlacks
    · simpa [h] using hsplits.suffix_length
  · rintro ⟨name, hname, hdot | ⟨stem, rfl, hstem⟩⟩
    · rw [endsInName_iff] at hname
      exact fileSuffix_of_not_mem (hname ▸ hdot)
    · simpa using fileSuffix_of_fileName (endsInName_iff.mp hname) hstem

/-! ## Policies -/

/-- A filter of suffixes sees nothing of a path but its name. -/
theorem FileFilter.accepts_suffixes_congr (accepted : List String) {path other : String}
    (h : fileName path.toList = fileName other.toList) :
    (FileFilter.suffixes accepted).accepts path = (FileFilter.suffixes accepted).accepts other := by
  simp only [accepts, fileSuffix_congr h]

/-- What the suffix of a path is, when there is none, and that a policy of suffixes treats the path
like any other one with the same name. -/
structure SuffixRules (path : String) : Prop where
  suffix_iff : ∀ suffix, (fileSuffix path.toList = suffix ∧ suffix ≠ []) ↔
    ∃ folder stem, SplitsAtSuffix path.toList folder stem suffix
  empty_iff : fileSuffix path.toList = [] ↔ ∃ name, EndsInName path.toList name ∧ LacksSuffix name
  accepts_eq : ∀ accepted, ∃ filter, FileFilter.ofPolicy (.suffixes accepted) = .ok filter ∧
    ∀ other name, EndsInName path.toList name → EndsInName other.toList name →
      filter.accepts path = filter.accepts other

/-- The suffix of every path is that of its name. -/
theorem fileSuffix_suffixRules (path : String) : SuffixRules path where
  suffix_iff _ := fileSuffix_eq_iff_splits
  empty_iff := fileSuffix_eq_nil_iff
  accepts_eq accepted := by
    refine ⟨_, rfl, fun other name hpath hother => ?_⟩
    apply FileFilter.accepts_suffixes_congr
    rw [endsInName_iff.mp hpath, endsInName_iff.mp hother]

/-- Dots in folders, of several parts, in front of everything and behind everything. -/
example : ["a.b\\c/page.ext.html", "/.gitignore", "v1.0/é", "a..", "é."].map
    (fun path => fileSuffix path.toList) =
      [".ext.html", ".gitignore", "", "..", ""].map String.toList := by decide

end Excerpt
