import Excerpt.ConfigFile
import Excerpt.Proofs.Path

/-! # The nearest configuration

The configuration of a directory is the one that stands nearest above it. It is read or it fails;
nothing farther away takes its place, and the defaults hold only where there is none. -/

namespace Excerpt

/-- The paths of a configuration in a directory, the preferred one first. -/
def configPlaces (directory : Text) : List Text :=
  [Path.join directory "snipmap.toml".toList, Path.join directory ".snipmap.toml".toList]

theorem configCandidates_eq (directory : Text) :
    configCandidates directory = (Path.selfAndAncestors directory).flatMap configPlaces :=
  rfl

/-- The first of some paths at which something stands. -/
def FileView.IsFirstPresent (view : FileView) (places : List Text) (path : Text) : Prop :=
  ∃ before after, places = before ++ path :: after ∧ view.isPresent path ∧
    ∀ other ∈ before, view.isPresent other = false

theorem FileView.find?_isPresent_eq_some_iff {view : FileView} {places : List Text} {path : Text} :
    places.find? view.isPresent = some path ↔ view.IsFirstPresent places path := by
  rw [List.find?_eq_some_iff_append, IsFirstPresent]
  constructor
  · rintro ⟨hpath, before, after, hplaces, hbefore⟩
    exact ⟨before, after, hplaces, hpath, by simpa using hbefore⟩
  · rintro ⟨before, after, hplaces, hpath, hbefore⟩
    exact ⟨hpath, before, after, hplaces, by simpa using hbefore⟩

/-! ## Reading -/

theorem parseConfigUpdate_eq_error_iff {t : Text} {e : Error} :
    parseConfigUpdate t = .error e ↔
      (Toml.parse t).bind ConfigUpdate.ofValue? = none ∧ e = .toml := by
  unfold parseConfigUpdate
  split
  · rename_i update hupdate
    simp [hupdate]
  · rename_i hnone
    simp [hnone, eq_comm]

/-- A configuration file fails when it cannot be read, or when there is no update in it. -/
theorem readConfigFile_eq_error_iff {view : FileView} {path : Text} {e : Error} :
    readConfigFile view path = .error e ↔
      (∃ cause, view.read path = .error cause ∧ e = .file cause) ∨
        ∃ t, view.read path = .ok t ∧ (Toml.parse t).bind ConfigUpdate.ofValue? = none ∧
          e = .toml := by
  cases hread : view.read path with
  | error cause =>
    have hfile : readConfigFile view path = .error (.file cause) := by
      simp [readConfigFile, FileView.readText, hread, bind, Except.bind]
    simp [hfile, eq_comm]
  | ok t =>
    have hfile : readConfigFile view path = (parseConfigUpdate t).map ConfigUpdate.toConfig := by
      simp [readConfigFile, FileView.readText, hread, bind, Except.bind]
      rfl
    have hupdate : readConfigFile view path = .error e ↔ parseConfigUpdate t = .error e := by
      rw [hfile]
      cases parseConfigUpdate t <;> simp [Except.map]
    simp [hupdate, parseConfigUpdate_eq_error_iff]

section

variable {view : FileView} {start path : Text}

theorem readConfig_of_found (h : findConfigFile view start = some path) :
    readConfig view start = readConfigFile view path := by
  rw [readConfig, h]

theorem readConfig_of_none (h : findConfigFile view start = none) :
    readConfig view start = .ok {} := by
  rw [readConfig, h]

/-- Where nothing can be read, only a configuration that is not there does not fail. -/
theorem findConfigFile_eq_none_of_unreadable
    (h : readConfig ⟨fun _ => .error .notFound, view.isPresent⟩ start = .ok {}) :
    findConfigFile view start = none := by
  cases hfound : findConfigFile view start with
  | none => rfl
  | some path =>
    have hunreadable : findConfigFile ⟨fun _ => .error .notFound, view.isPresent⟩ start =
        some path := hfound
    rw [readConfig_of_found hunreadable] at h
    cases h

end

/-! ## The walk -/

/-- How a configuration is looked up from a path: in these directories, one after the other. -/
structure NearestFirst (view : FileView) (start : Text) (directories : List Text) : Prop where
  ascent : Path.Ascent start directories
  eq_of_ascent : ∀ others, Path.Ascent start others → others = directories
  exists_top : ∃ top, directories.getLast? = some top ∧ (top = [] ∨ Path.IsRoot top)
  found_iff : ∀ path, findConfigFile view start = some path ↔
    view.IsFirstPresent (directories.flatMap configPlaces) path
  none_iff : findConfigFile view start = none ↔
    ∀ path ∈ directories.flatMap configPlaces, view.isPresent path = false
  /-- What is found is read, and nothing else. -/
  read_eq : ∀ path, findConfigFile view start = some path →
    readConfig view start = readConfigFile view path
  error_iff : ∀ e, readConfig view start = .error e ↔
    ∃ path, findConfigFile view start = some path ∧
      ((∃ cause, view.read path = .error cause ∧ e = .file cause) ∨
        ∃ t, view.read path = .ok t ∧ (Toml.parse t).bind ConfigUpdate.ofValue? = none ∧
          e = .toml)
  /-- The defaults hold whatever can be read, exactly when there is nothing to be found. -/
  default_iff : (∀ read, readConfig ⟨read, view.isPresent⟩ start = .ok {}) ↔
    findConfigFile view start = none

/-- From every path, whatever files there are, the walk comes to an end and takes the nearest. -/
theorem exists_nearestFirst (view : FileView) (start : Text) :
    ∃ directories, NearestFirst view start directories := by
  have hascent := Path.ascent_selfAndAncestors start
  refine ⟨Path.selfAndAncestors start, ?_⟩
  exact {
    ascent := hascent
    eq_of_ascent := fun others h => h.unique hascent
    exists_top := hascent.exists_getLast
    found_iff := fun path => FileView.find?_isPresent_eq_some_iff
    none_iff := by
      rw [findConfigFile, configCandidates_eq, List.find?_eq_none]
      simp only [Bool.not_eq_true]
    read_eq := fun path => readConfig_of_found
    error_iff := by
      intro e
      cases hfound : findConfigFile view start with
      | none => simp [readConfig_of_none hfound]
      | some path => simp [readConfig_of_found hfound, readConfigFile_eq_error_iff]
    default_iff := by
      constructor
      · intro h
        exact findConfigFile_eq_none_of_unreadable (h _)
      · intro hnone read
        exact readConfig_of_none hnone }

/-- The hidden file of the nearest directory comes before the other one farther up, and though it
cannot be read nothing takes its place. -/
example :
    let view : FileView := ⟨fun _ => .error .isDirectory, fun path =>
      path == "./a/.snipmap.toml".toList || path == "./snipmap.toml".toList⟩
    Path.selfAndAncestors "./a//b/.".toList = ["./a//b/.".toList, "./a".toList, ['.'], []] ∧
      findConfigFile view "./a//b/.".toList = some "./a/.snipmap.toml".toList ∧
      readConfig view "./a//b/.".toList = .error (.file .isDirectory) :=
  ⟨rfl, rfl, rfl⟩

end Excerpt
