import Excerpt.FileTree
import Excerpt.Proofs.Except
import Excerpt.Proofs.Path

/-! # Writing into a tree

A file that was written is read back at its path. Nothing else in the tree has changed, and every
path that led somewhere still leads there. -/

namespace Excerpt

/-! ## The parts of a path -/

namespace Path

/-- A path that does not end with a slash ends with a part. -/
theorem exists_parts_of_getLast?_ne {path : Text} (hne : path ≠ [])
    (hslash : path.getLast? ≠ some '/') :
    ∃ others last, parts path = others ++ [last] ∧ last ≠ [] := by
  rcases not_mem_or_exists_slash path with h | ⟨front, last, rfl, hlast⟩
  · exact ⟨[], path, parts_of_not_mem h, hne⟩
  · refine ⟨parts front, last, by rw [parts_append_slash, parts_of_not_mem hlast], ?_⟩
    rintro rfl
    simp at hslash

end Path

namespace FileTree

variable {tree written : FileTree} {location found : Location} {path t : Text}

/-! ## Walking -/

theorem walk_cons (tree : FileTree) (location : Location) (part : Text) (parts : List Text) :
    tree.walk location (part :: parts) =
      if !tree.isDirectory location then .error .notDirectory
      else if Path.isVoid part then tree.walk location parts
      else if part = ['.', '.'] then tree.walk location.dropLast parts
      else if (tree.node? (location ++ [part])).isNone then .error .notFound
      else tree.walk (location ++ [part]) parts :=
  rfl

theorem walk_append (tree : FileTree) (location : Location) (first rest : List Text) :
    tree.walk location (first ++ rest) =
      (tree.walk location first).bind fun reached => tree.walk reached rest := by
  induction first generalizing location with
  | nil => rfl
  | cons part parts ih =>
    rw [List.cons_append, walk_cons, walk_cons]
    split
    · rfl
    · split
      · exact ih location
      · split
        · exact ih location.dropLast
        · split
          · rfl
          · exact ih (location ++ [part])

theorem walk_concat_of_not_isDirectory (h : tree.isDirectory location = false) (parts : List Text)
    (last : Text) : tree.walk location (parts ++ [last]) = .error .notDirectory := by
  cases parts <;> simp [walk_cons, h]

/-- Empty parts make no difference in front of another part. -/
theorem walk_filter_concat (tree : FileTree) (location : Location) (parts : List Text)
    (last : Text) :
    tree.walk location (parts.filter (!·.isEmpty) ++ [last]) =
      tree.walk location (parts ++ [last]) := by
  induction parts generalizing location with
  | nil => rfl
  | cons part parts ih =>
    cases part with
    | nil =>
      have hvoid : Path.isVoid [] := rfl
      rw [List.filter_cons_of_neg (by simp), List.cons_append, walk_cons, ← ih location]
      cases hdirectory : tree.isDirectory location with
      | false => simp [walk_concat_of_not_isDirectory hdirectory]
      | true => simp [hvoid]
    | cons c part =>
      rw [List.filter_cons_of_pos (by simp), List.cons_append, List.cons_append, walk_cons,
        walk_cons, ih, ih, ih]

/-- The other tree has a node wherever this one has, and a directory wherever this one has. -/
structure Grows (tree written : FileTree) : Prop where
  workingDirectory_eq : written.workingDirectory = tree.workingDirectory
  isDirectory : ∀ location, tree.isDirectory location → written.isDirectory location
  node?_ne_none : ∀ location, tree.node? location ≠ none → written.node? location ≠ none

theorem Grows.walk (h : tree.Grows written) {parts : List Text}
    (hwalk : tree.walk location parts = .ok found) : written.walk location parts = .ok found := by
  induction parts generalizing location with
  | nil => exact hwalk
  | cons part parts ih =>
    rw [walk_cons] at hwalk ⊢
    obtain ⟨hdirectory, hwalk⟩ := of_guard_eq_ok hwalk
    have hdirectory' := h.isDirectory location (by simpa using hdirectory)
    rw [if_neg (by simp [hdirectory'])]
    by_cases hvoid : Path.isVoid part
    · rw [if_pos hvoid] at hwalk ⊢
      exact ih hwalk
    · rw [if_neg hvoid] at hwalk ⊢
      by_cases hup : part = ['.', '.']
      · rw [if_pos hup] at hwalk ⊢
        exact ih hwalk
      · rw [if_neg hup] at hwalk ⊢
        obtain ⟨hnone, hwalk⟩ := of_guard_eq_ok hwalk
        have hsome := h.node?_ne_none (location ++ [part]) (by simpa using hnone)
        rw [if_neg (by simpa using hsome)]
        exact ih hwalk

theorem Grows.locate (h : tree.Grows written) (hlocate : tree.locate path = .ok found) :
    written.locate path = .ok found := by
  obtain ⟨hempty, hlocate⟩ := of_guard_eq_ok hlocate
  rw [FileTree.locate, if_neg hempty, origin, h.workingDirectory_eq]
  exact h.walk hlocate

/-! ## Putting -/

theorem lookup_cons (location other : Location) (node : FileNode)
    (rest : List (Location × FileNode)) :
    List.lookup other ((location, node) :: rest) =
      if other = location then some node else rest.lookup other := by
  rw [List.lookup_cons]
  by_cases h : other = location
  · simp [h]
  · rw [beq_false_of_ne h, if_neg h]

theorem lookup_putNode (location other : Location) (node : FileNode)
    (nodes : List (Location × FileNode)) :
    (putNode location node nodes).lookup other =
      if other = location then some node else nodes.lookup other := by
  induction nodes with
  | nil => exact lookup_cons location other node []
  | cons entry rest ih =>
    obtain ⟨name, old⟩ := entry
    rw [putNode, lookup_cons]
    by_cases hname : location = name
    · subst hname
      rw [if_pos rfl, lookup_cons]
      split <;> rfl
    · rw [if_neg hname, lookup_cons, ih]
      by_cases hother : other = name
      · have hne : other ≠ location := fun h => hname (h.symm.trans hother)
        rw [if_pos hother, if_neg hne, if_pos hother]
      · rw [if_neg hother, if_neg hother]

theorem node?_put (h : tree.isDirectory location = false) (node : FileNode) (other : Location) :
    (tree.put location node).node? other =
      if other = location then some node else tree.node? other := by
  -- the root is a directory whatever is put there
  have hne : location ≠ [] := by
    rintro rfl
    simp [isDirectory, node?] at h
  unfold node? put
  rw [lookup_putNode]
  by_cases hother : other = location
  · simp [hother, hne]
  · simp [hother]

theorem grows_put (h : tree.isDirectory location = false) (content : FileContent) :
    tree.Grows (tree.put location (.file content)) := by
  refine ⟨rfl, ?_, ?_⟩
  · intro other hother
    have hne : other ≠ location := by
      rintro rfl
      simp [hother] at h
    rwa [isDirectory, node?_put h, if_neg hne]
  · intro other hother
    rw [node?_put h]
    split
    · simp
    · exact hother

/-! ## Writing -/

/-- How a path is written at a location: its last part names the file in the directory that the
other parts lead to. -/
structure Destination (tree : FileTree) (path : Text) (location : Location) where
  others : List Text
  last : Text
  directory : Location
  path_ne_nil : path ≠ []
  parts_eq : Path.parts path = others ++ [last]
  isVoid_last : Path.isVoid last = false
  last_ne_up : last ≠ ['.', '.']
  walk_eq : tree.walk (tree.origin path) (others.filter (!·.isEmpty)) = .ok directory
  isDirectory_directory : tree.isDirectory directory
  location_eq : location = directory ++ [last]
  isDirectory_location : tree.isDirectory location = false

theorem nonempty_destination (h : tree.locateForWriting path = .ok location) :
    Nonempty (tree.Destination path location) := by
  unfold locateForWriting at h
  simp only [bind, Except.bind, throw, throwThe, MonadExceptOf.throw, pure, Except.pure] at h
  obtain ⟨hempty, h⟩ := of_guard_eq_ok h
  have hne : path ≠ [] := by simpa using hempty
  cases hreverse : ((Path.parts path).filter (!·.isEmpty)).reverse with
  | nil => simp [hreverse] at h
  | cons last reversed =>
    rw [hreverse] at h
    dsimp only at h
    cases hwalk : tree.walk (tree.origin path) reversed.reverse with
    | error e => simp [hwalk] at h
    | ok directory =>
      rw [hwalk] at h
      obtain ⟨hdirectory, h⟩ := of_guard_eq_ok h
      obtain ⟨hlast, h⟩ := of_guard_eq_ok h
      obtain ⟨hlocation, h⟩ := of_guard_eq_ok h
      simp only [Bool.or_eq_true, decide_eq_true_eq, not_or] at hlast
      obtain ⟨others, found, hparts, hfound⟩ := Path.exists_parts_of_getLast?_ne hne hlast.1.1
      -- the last part is not empty, so it is the last one of those that are followed
      have hfilter : ((Path.parts path).filter (!·.isEmpty)).reverse =
          found :: (others.filter (!·.isEmpty)).reverse := by
        simp [hparts, hfound]
      obtain ⟨rfl, rfl⟩ := List.cons.inj (hreverse.symm.trans hfilter)
      rw [List.reverse_reverse] at hwalk
      exact ⟨{
        others := others
        last := last
        directory := directory
        path_ne_nil := hne
        parts_eq := hparts
        isVoid_last := by simp [Path.isVoid, hfound, hlast.1.2]
        last_ne_up := hlast.2
        walk_eq := hwalk
        isDirectory_directory := by simpa using hdirectory
        location_eq := (Except.ok.inj h).symm
        isDirectory_location := by rw [← Except.ok.inj h]; simpa using hlocation }⟩

/-- A path leads to the file that has been put at its destination. -/
theorem Destination.locate_put (d : tree.Destination path location) (content : FileContent) :
    (tree.put location (.file content)).locate path = .ok location := by
  have hgrows := grows_put d.isDirectory_location content
  have hnode : (tree.put location (.file content)).node? location = some (.file content) := by
    rw [node?_put d.isDirectory_location, if_pos rfl]
  have hlast : (tree.put location (.file content)).walk d.directory [d.last] = .ok location := by
    have hdirectory := hgrows.isDirectory _ d.isDirectory_directory
    simp [walk, hdirectory, d.isVoid_last, d.last_ne_up, ← d.location_eq, hnode]
  calc (tree.put location (.file content)).locate path
      = (tree.put location (.file content)).walk (tree.origin path) (d.others ++ [d.last]) := by
        rw [locate, if_neg (by simpa using d.path_ne_nil), d.parts_eq]
        rfl
    _ = .ok location := by
        rw [← walk_filter_concat, walk_append, hgrows.walk d.walk_eq]
        exact hlast

/-- What writing leaves: a tree with this text in one place, and all else as it was. -/
structure Overwrites (tree written : FileTree) (location : Location) (t : Text) : Prop where
  workingDirectory_eq : written.workingDirectory = tree.workingDirectory
  node?_self : written.node? location = some (.file (.text t))
  node?_of_ne : ∀ other, other ≠ location → written.node? other = tree.node? other
  locate_eq : ∀ path found, tree.locate path = .ok found → written.locate path = .ok found

/-- A text that was written stands at its path, and nothing else has changed. -/
theorem exists_overwrites_of_write (h : tree.write path t = .ok written) :
    ∃ location, tree.locateForWriting path = .ok location ∧ tree.Overwrites written location t ∧
      written.read path = .ok t := by
  obtain ⟨location, hlocate, hput⟩ := exists_of_bind_eq_ok h
  obtain rfl := Except.ok.inj hput
  obtain ⟨destination⟩ := nonempty_destination hlocate
  have hlocation := destination.isDirectory_location
  have hself : (tree.put location (.file (.text t))).node? location = some (.file (.text t)) := by
    rw [node?_put hlocation, if_pos rfl]
  refine ⟨location, hlocate, ⟨rfl, hself, ?_, fun _ _ => (grows_put hlocation _).locate⟩, ?_⟩
  · intro other hother
    rw [node?_put hlocation, if_neg hother]
  · simp only [read, destination.locate_put, hself, bind, Except.bind]
    rfl

end FileTree

end Excerpt
