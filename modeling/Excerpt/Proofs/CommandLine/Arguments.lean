import Excerpt.CommandLine.Arguments
import Excerpt.Proofs.Except

/-! # Commands without an output file

Whatever arguments a command was read from, there are arguments for the same command without an
output file. -/

namespace Excerpt.CommandLine

/-! ## Values that have been accepted -/

/-- The options that take a value have one that they accept. -/
def Accepted (given : GivenOptions) : Prop :=
  ∀ o ∈ given, o.1.takesValue → o.1.accepts o.2

theorem accepted_nil : Accepted [] := by
  simp [Accepted]

section Reading

variable {kinds : List OptionKind} {given : GivenOptions}

theorem accepted_of_addOption {given' : GivenOptions} {kind : OptionKind} {value : String}
    (hgiven : Accepted given) (h : addOption given kind value = .ok given') : Accepted given' := by
  unfold addOption at h
  split at h
  · simp at h
  · simp at h
  · obtain ⟨-, h⟩ := of_guard_eq_ok h
    obtain ⟨hvalue, h⟩ := of_guard_eq_ok h
    obtain rfl := Except.ok.inj h
    intro o ho htakes
    rcases List.mem_cons.mp ho with rfl | ho
    · simpa [htakes] using hvalue
    · exact hgiven o ho htakes

theorem accepted_of_map_addOption {kind : OptionKind} {value : String} {letters : Letters}
    (hgiven : Accepted given)
    (h : (addOption given kind value).map (⟨·, none⟩) = .ok letters) : Accepted letters.given := by
  obtain ⟨given', hadd, rfl⟩ := exists_of_map_eq_ok h
  exact accepted_of_addOption hgiven hadd

theorem accepted_of_readLetters {t : Text} {letters : Letters} (hgiven : Accepted given)
    (h : readLetters kinds given t = .ok letters) : Accepted letters.given := by
  induction t generalizing given with
  | nil =>
    obtain rfl := Except.ok.inj h
    exact hgiven
  | cons c rest ih =>
    rw [readLetters] at h
    split at h
    · simp at h
    · split at h
      · split at h
        · obtain rfl := Except.ok.inj h
          exact hgiven
        · exact accepted_of_map_addOption hgiven h
        · exact accepted_of_map_addOption hgiven h
      · obtain ⟨given', hadd, h⟩ := exists_of_bind_eq_ok h
        exact ih (accepted_of_addOption hgiven hadd) h

theorem accepted_of_readLongName {t : Text} {letters : Letters} (hgiven : Accepted given)
    (h : readLongName kinds given t = .ok letters) : Accepted letters.given := by
  unfold readLongName at h
  dsimp only at h
  split at h
  · simp at h
  · split at h
    · obtain rfl := Except.ok.inj h
      exact hgiven
    · exact accepted_of_map_addOption hgiven h
    · exact accepted_of_map_addOption hgiven h
    · simp at h

theorem accepted_of_readPlace {upToOperand : Bool} {operands args : List String}
    {pending : Option OptionKind} {place : Place} (hgiven : Accepted given)
    (h : readPlace kinds upToOperand given operands pending args = .ok place) :
    Accepted place.given := by
  induction args generalizing given operands pending with
  | nil =>
    rw [readPlace] at h
    obtain ⟨-, h⟩ := of_guard_eq_ok h
    obtain rfl := Except.ok.inj h
    exact hgiven
  | cons arg args ih =>
    unfold readPlace at h
    split at h
    · obtain ⟨-, h⟩ := of_guard_eq_ok h
      obtain ⟨given', hadd, h⟩ := exists_of_bind_eq_ok h
      exact ih (accepted_of_addOption hgiven hadd) h
    · split at h
      · split at h
        · split at h
          · obtain rfl := Except.ok.inj h
            exact hgiven
          · simp at h
        · obtain rfl := Except.ok.inj h
          exact hgiven
      · obtain ⟨read, hread, h⟩ := exists_of_bind_eq_ok h
        exact ih (accepted_of_readLongName hgiven hread) h
      · obtain ⟨read, hread, h⟩ := exists_of_bind_eq_ok h
        exact ih (accepted_of_readLetters hgiven hread) h
      · split at h
        · obtain rfl := Except.ok.inj h
          exact hgiven
        · obtain ⟨-, h⟩ := of_guard_eq_ok h
          exact ih hgiven h

/-! ## Options that are written out -/

/-- An option with its value in one argument. -/
def longArgument (kind : OptionKind) (value : String) : String :=
  "--" ++ kind.long ++ "=" ++ value

theorem equals_not_mem_long (kind : OptionKind) : '=' ∉ kind.long.toList := by
  cases kind <;> decide

theorem addOption_eq_ok {kind : OptionKind} {value : String} (htakes : kind.takesValue)
    (haccepts : kind.accepts value) (hnew : given.lookup kind = none) :
    addOption given kind value = .ok ((kind, value) :: given) := by
  unfold addOption
  split
  · simp [OptionKind.takesValue] at htakes
  · simp [OptionKind.takesValue] at htakes
  · rw [hnew, htakes, haccepts]
    rfl

theorem readLongName_eq_ok {kind : OptionKind} {value : String}
    (hfind : kinds.find? (fun other => other.long == kind.long) = some kind)
    (htakes : kind.takesValue) (haccepts : kind.accepts value) (hnew : given.lookup kind = none) :
    readLongName kinds given (kind.long.toList ++ '=' :: value.toList) =
      .ok ⟨(kind, value) :: given, none⟩ := by
  have hname : ∀ c ∈ kind.long.toList, (c != '=') = true := by
    intro c hc
    have hne : c ≠ '=' := fun h => equals_not_mem_long kind (h ▸ hc)
    simpa using hne
  have htake : (kind.long.toList ++ '=' :: value.toList).takeWhile (· != '=') =
      kind.long.toList := by
    simp [List.takeWhile_append_of_pos hname]
  have hdrop : (kind.long.toList ++ '=' :: value.toList).dropWhile (· != '=') =
      '=' :: value.toList := by
    simp [List.dropWhile_append_of_pos hname]
  simp [readLongName, htake, hdrop, hfind, htakes, addOption_eq_ok htakes haccepts hnew, Except.map]

theorem readPlace_longArgument {upToOperand : Bool} {operands args : List String}
    {kind : OptionKind} {value : String}
    (hfind : kinds.find? (fun other => other.long == kind.long) = some kind)
    (htakes : kind.takesValue) (haccepts : kind.accepts value) (hnew : given.lookup kind = none) :
    readPlace kinds upToOperand given operands none (longArgument kind value :: args) =
      readPlace kinds upToOperand ((kind, value) :: given) operands none args := by
  have hargument : (longArgument kind value).toList =
      '-' :: '-' :: (kind.long.toList ++ '=' :: value.toList) := by
    simp [longArgument]
  -- so these are more than the two hyphens that end the options
  have hname : kind.long.toList ++ '=' :: value.toList ≠ [] := by simp
  rw [readPlace.eq_def]
  simp only [hargument]
  rw [readLongName_eq_ok hfind htakes haccepts hnew]
  rfl

theorem readPlace_optionalArgument {upToOperand : Bool} {operands args : List String}
    {kind : OptionKind} {value? : Option String}
    (hfind : kinds.find? (fun other => other.long == kind.long) = some kind)
    (htakes : kind.takesValue) (haccepts : ∀ value ∈ value?, kind.accepts value)
    (hnew : given.lookup kind = none) :
    readPlace kinds upToOperand given operands none
        (value?.toList.map (longArgument kind) ++ args) =
      readPlace kinds upToOperand (value?.toList.map (kind, ·) ++ given) operands none args := by
  cases value? with
  | none => rfl
  | some value => exact readPlace_longArgument hfind htakes (haccepts value rfl) hnew

end Reading

/-! ## Commands that are written out -/

/-- The file of a command. -/
def Command.file : Command → String
  | .extract file _ => file
  | .map file _ => file
  | .remap file _ _ => file

/-- What holds of every invocation that was read. -/
structure Invocation.WellFormed (i : Invocation) : Prop where
  accepts_config : ∀ path ∈ i.config, OptionKind.config.accepts path
  accepts_directory : ∀ path ∈ i.directory, OptionKind.directory.accepts path
  file_ne_empty : i.command.file.isEmpty = false

theorem Accepted.accepts_of_lookup {given : GivenOptions} {kind : OptionKind} {value : String}
    (h : Accepted given) (htakes : kind.takesValue) (hlookup : given.lookup kind = some value) :
    kind.accepts value := by
  obtain ⟨front, back, rfl, -⟩ := List.lookup_eq_some_iff.mp hlookup
  exact h (kind, value) (by simp) htakes

theorem Accepted.accepts_of_lookup_or {inner outer : GivenOptions} {kind : OptionKind}
    {value : String} (hinner : Accepted inner) (houter : Accepted outer) (htakes : kind.takesValue)
    (hvalue : value ∈ (inner.lookup kind).or (outer.lookup kind)) : kind.accepts value := by
  rcases Option.or_eq_some_iff.mp hvalue with hvalue | ⟨-, hvalue⟩
  · exact hinner.accepts_of_lookup htakes hvalue
  · exact houter.accepts_of_lookup htakes hvalue

theorem file_of_commandOf? {name file : String} {given : GivenOptions} {c : Command}
    (h : commandOf? name file given = some c) : c.file = file := by
  unfold commandOf? at h
  split at h
  · cases h; rfl
  · cases h; rfl
  · cases h; rfl
  · cases h

theorem Invocation.wellFormed_of_readCommand {name : String} {outer : GivenOptions}
    {args : List String} {i : Invocation} (houter : Accepted outer)
    (h : readCommand name outer args = .ok i) : i.WellFormed := by
  unfold readCommand at h
  cases hkinds : commandKinds? name with
  | none =>
    rw [hkinds] at h
    cases h
  | some kinds =>
    rw [hkinds] at h
    obtain ⟨_, ⟨⟩, h⟩ := exists_of_bind_eq_ok h
    obtain ⟨inner, hread, h⟩ := exists_of_bind_eq_ok h
    have hinner := accepted_of_readPlace accepted_nil (of_mapError_eq_ok hread)
    split at h
    · obtain ⟨hfile, h⟩ := of_guard_eq_ok h
      split at h
      · cases h
      · rename_i command hcommand
        obtain rfl := Except.ok.inj h
        refine ⟨?_, ?_, ?_⟩
        · intro path hpath
          exact hinner.accepts_of_lookup_or houter rfl hpath
        · intro path hpath
          exact hinner.accepts_of_lookup_or houter rfl hpath
        · rw [file_of_commandOf? hcommand]
          simpa using hfile
    · cases h

theorem Invocation.wellFormed_of_readArguments {args : List String} {i : Invocation}
    (h : readArguments args = .ok i) : i.WellFormed := by
  obtain ⟨outer, hread, h⟩ := exists_of_bind_eq_ok h
  have houter := accepted_of_readPlace accepted_nil hread
  split at h
  · exact wellFormed_of_readCommand houter h
  · cases h

/-- Arguments for the same invocation, if its command is an extraction with no output file. -/
def Invocation.plainArguments (i : Invocation) : List String :=
  i.config.toList.map (longArgument .config) ++
    (i.directory.toList.map (longArgument .directory) ++
      ((if i.verbose then ["--verbose"] else []) ++ ["extract", "--", i.command.file]))

/-- The options for all commands, as they are read from the front of these arguments. -/
def Invocation.plainOptions (i : Invocation) : GivenOptions :=
  (if i.verbose then [(.verbose, "")] else []) ++
    (i.directory.toList.map (.directory, ·) ++ i.config.toList.map (.config, ·))

theorem Invocation.lookup_plainOptions (i : Invocation) :
    i.plainOptions.lookup .config = i.config ∧ i.plainOptions.lookup .directory = i.directory ∧
      (i.plainOptions.lookup .verbose).isSome = i.verbose := by
  obtain ⟨config, directory, verbose, command⟩ := i
  cases config <;> cases directory <;> cases verbose <;> exact ⟨rfl, rfl, rfl⟩

theorem Invocation.readPlace_plainArguments {i : Invocation} (h : i.WellFormed) :
    readPlace (sharedKinds ++ [.version]) true [] [] none i.plainArguments =
      .ok ⟨i.plainOptions, ["extract"], ["--", i.command.file]⟩ := by
  unfold plainArguments
  rw [readPlace_optionalArgument (by decide) rfl h.accepts_config rfl,
    readPlace_optionalArgument (by decide) rfl h.accepts_directory (by cases i.config <;> rfl)]
  unfold plainOptions
  obtain ⟨config, directory, verbose, command⟩ := i
  cases config <;> cases directory <;> cases verbose <;> rfl

theorem readCommand_extract (outer : GivenOptions) {file : String} (h : file.isEmpty = false) :
    readCommand "extract" outer ["--", file] =
      .ok ⟨outer.lookup .config, outer.lookup .directory, (outer.lookup .verbose).isSome,
        .extract file none⟩ := by
  change (if file.isEmpty = true then _ else _) = _
  rw [if_neg (by simp [h])]
  rfl

theorem Invocation.readArguments_plainArguments {i : Invocation} (h : i.WellFormed) :
    readArguments i.plainArguments = .ok { i with command := .extract i.command.file none } := by
  obtain ⟨hconfig, hdirectory, hverbose⟩ := i.lookup_plainOptions
  unfold readArguments
  rw [i.readPlace_plainArguments h]
  calc readCommand "extract" i.plainOptions ["--", i.command.file]
      = .ok ⟨i.plainOptions.lookup .config, i.plainOptions.lookup .directory,
          (i.plainOptions.lookup .verbose).isSome, .extract i.command.file none⟩ :=
        readCommand_extract i.plainOptions h.file_ne_empty
    _ = .ok { i with command := .extract i.command.file none } := by
        rw [hconfig, hdirectory, hverbose]

/-- The output file of a command. -/
def Command.output? : Command → Option String
  | .extract _ output => output
  | .map _ _ => none
  | .remap _ _ _ => none

/-- The same command with no output file. -/
def Command.withoutOutput : Command → Command
  | .extract file _ => .extract file none
  | .map file json => .map file json
  | .remap file diagnostics format => .remap file diagnostics format

/-- The same invocation with no output file. -/
def Invocation.withoutOutput (i : Invocation) : Invocation :=
  { i with command := i.command.withoutOutput }

/-- Whatever arguments an invocation was read from, it can be written without an output file. -/
theorem exists_readArguments_withoutOutput {args : List String} {i : Invocation}
    (h : readArguments args = .ok i) : ∃ plain, readArguments plain = .ok i.withoutOutput := by
  have hplain := Invocation.readArguments_plainArguments (Invocation.wellFormed_of_readArguments h)
  obtain ⟨config, directory, verbose, command⟩ := i
  cases command with
  | extract file output => exact ⟨_, hplain⟩
  | map file json => exact ⟨args, h⟩
  | remap file diagnostics format => exact ⟨args, h⟩

end Excerpt.CommandLine
