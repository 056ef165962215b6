import Excerpt.CommandLine.Run
import Excerpt.Proofs.CommandLine.Arguments
import Excerpt.Proofs.FileTree
import Excerpt.Proofs.Workspace.Commands

/-! # Runs of the command line

A run that fails has neither printed nor written anything. A run that succeeds has printed, or it
has written the one file that was asked for, and there stands what it would have printed. -/

namespace Excerpt.CommandLine

/-- What a run on a tree has to go by. -/
def environment (stdin : Except FileError Text) (tree : FileTree) : Environment :=
  ⟨tree.view, locationPath tree.workingDirectory, stdin⟩

/-- The path of the output file, as it is meant from the base directory. -/
def Invocation.outputPath? (i : Invocation) (env : Environment) : Option Text :=
  i.command.output?.map fun output => Path.join (i.baseDirectory env) output.toList

/-- The path of the output file that some arguments ask for. -/
def outputPath? (args : List String) (env : Environment) : Option Text :=
  match readArguments args with
  | .error _ => none
  | .ok i => i.outputPath? env

/-! ## Plans -/

section Plans

variable {c : Command} {ws : Workspace} {env : Environment} {p : Plan}

/-- A command with no output file prints. -/
theorem Command.exists_plan_eq_finish (houtput : c.output? = none) (h : c.plan ws env = .ok p) :
    ∃ stdout, p = .finish (.success stdout) := by
  cases c with
  | extract file output =>
    cases output with
    | none =>
      obtain ⟨extracted, -, h⟩ := exists_of_bind_eq_ok h
      exact ⟨_, (Except.ok.inj h).symm⟩
    | some output => simp [Command.output?] at houtput
  | map file json =>
    obtain ⟨description, -, h⟩ := exists_of_bind_eq_ok h
    exact ⟨_, (Except.ok.inj h).symm⟩
  | remap file diagnostics format =>
    obtain ⟨input, -, h⟩ := exists_of_bind_eq_ok h
    obtain ⟨report, -, h⟩ := exists_of_bind_eq_ok h
    exact ⟨_, (Except.ok.inj h).symm⟩

/-- A command with an output file writes there what it prints without one. -/
theorem Command.exists_plan_eq_write {output : String} (houtput : c.output? = some output)
    (h : c.plan ws env = .ok p) :
    ∃ text, p = .write (ws.resolve output.toList) text ∧
      c.withoutOutput.plan ws env = .ok (.finish (.success (String.ofList text))) := by
  cases c with
  | extract file output' =>
    obtain rfl : output' = some output := houtput
    cases hread : env.view.read (ws.resolve file.toList) with
    | error cause =>
      simp [Command.plan, Workspace.extractTo, Workspace.extractFile_of_error hread, Except.map,
        bind, Except.bind] at h
    | ok host =>
      have hextract := Workspace.extractFile_of_ok hread
      refine ⟨(ws.processor.extract host (ws.documentOf file.toList)).1, ?_, ?_⟩
      · simp only [Command.plan, Workspace.extractTo, hextract] at h
        exact (Except.ok.inj h).symm
      · simp only [Command.withoutOutput, Command.plan, hextract]
        rfl
  | map file json => simp [Command.output?] at houtput
  | remap file diagnostics format => simp [Command.output?] at houtput

/-- The ways a plan is made. -/
inductive Planned (args : List String) (env : Environment) : Plan → Prop where
  | failed (outcome : Outcome) (exit_ne : outcome.exit ≠ 0) (stdout_eq : outcome.stdout = "") :
      Planned args env (.finish outcome)
  | printed (stdout : String) (outputPath?_eq : outputPath? args env = none) :
      Planned args env (.finish (.success stdout))
  | writing (i : Invocation) (path text : Text) (read_eq : readArguments args = .ok i)
      (outputPath?_eq : i.outputPath? env = some path)
      (plan_eq : i.withoutOutput.plan env = .finish (.success (String.ofList text))) :
      Planned args env (.write path text)

theorem planned_failure (args : List String) (env : Environment) (stage : String) (e : Error) :
    Planned args env (.finish (.failure stage e)) :=
  .failed _ Nat.one_ne_zero rfl

theorem resolve_of_ofConfig {config : Config} {base : Text}
    (h : Workspace.ofConfig config base = .ok ws) (path : Text) :
    ws.resolve path = Path.join base path := by
  obtain ⟨processor, -, h⟩ := exists_of_bind_eq_ok h
  obtain rfl := Except.ok.inj h
  rfl

theorem Invocation.plan_eq {i : Invocation} {config : Config}
    (hconfig : i.readConfig env = .ok config)
    (hws : Workspace.ofConfig config (i.baseDirectory env) = .ok ws)
    (hplan : i.command.plan ws env = .ok p) : i.plan env = p := by
  simp only [Invocation.plan, hconfig, hws, hplan]

/-- Every stage of an invocation ends the run when it fails. -/
theorem Invocation.planned_plan {args : List String} {i : Invocation} (env : Environment)
    (h : readArguments args = .ok i) : Planned args env (i.plan env) := by
  cases hconfig : i.readConfig env with
  | error e =>
    simp only [Invocation.plan, hconfig]
    exact planned_failure args env _ e
  | ok config =>
    cases hws : Workspace.ofConfig config (i.baseDirectory env) with
    | error e =>
      simp only [Invocation.plan, hconfig, hws]
      exact planned_failure args env _ e
    | ok ws =>
      cases hplan : i.command.plan ws env with
      | error e =>
        simp only [Invocation.plan, hconfig, hws, hplan]
        exact planned_failure args env _ e
      | ok p =>
        rw [Invocation.plan_eq hconfig hws hplan]
        cases houtput : i.command.output? with
        | none =>
          obtain ⟨stdout, rfl⟩ := Command.exists_plan_eq_finish houtput hplan
          apply Planned.printed
          simp [CommandLine.outputPath?, h, Invocation.outputPath?, houtput]
        | some output =>
          obtain ⟨text, rfl, hplain⟩ := Command.exists_plan_eq_write houtput hplan
          apply Planned.writing i _ text h
          · simp [Invocation.outputPath?, houtput, resolve_of_ofConfig hws]
          · exact Invocation.plan_eq hconfig hws hplain

theorem planned_plan (args : List String) (env : Environment) :
    Planned args env (plan args env) := by
  cases hread : readArguments args with
  | error interruption =>
    have hpath : outputPath? args env = none := by simp [outputPath?, hread]
    simp only [plan, hread]
    cases interruption with
    | usage => exact .failed _ (by decide) rfl
    | help command => exact .printed (helpText command) hpath
    | version => exact .printed versionText hpath
  | ok i =>
    simp only [plan, hread]
    exact Invocation.planned_plan env hread

end Plans

/-! ## Runs -/

/-- The file at the path is written, with what the same invocation prints without an output file,
and nothing else has changed. -/
structure WritesPrinted (i : Invocation) (stdin : Except FileError Text) (tree after : FileTree)
    (path text : Text) : Prop where
  overwrites : ∃ location,
    tree.locateForWriting path = .ok location ∧ tree.Overwrites after location text
  read_eq : after.read path = .ok text
  exists_plain : ∃ plain, readArguments plain = .ok i.withoutOutput
  runOn_plain : ∀ plain, readArguments plain = .ok i.withoutOutput →
    runOn plain stdin tree = (.success (String.ofList text), tree)

/-- What a run may leave. -/
structure AllOrNothing (args : List String) (stdin : Except FileError Text) (tree : FileTree)
    (outcome : Outcome) (after : FileTree) : Prop where
  failed : outcome.exit ≠ 0 → outcome.stdout = "" ∧ after = tree
  printed : outcome.exit = 0 → outputPath? args (environment stdin tree) = none → after = tree
  wrote : outcome.exit = 0 → ∀ i path, readArguments args = .ok i →
    i.outputPath? (environment stdin tree) = some path →
      ∃ text, WritesPrinted i stdin tree after path text

section Runs

variable {args : List String} {stdin : Except FileError Text} {tree : FileTree}

theorem AllOrNothing.of_exit_ne {outcome : Outcome} (hexit : outcome.exit ≠ 0)
    (hstdout : outcome.stdout = "") : AllOrNothing args stdin tree outcome tree := by
  refine ⟨fun _ => ⟨hstdout, rfl⟩, ?_, ?_⟩
  · intro hzero
    exact absurd hzero hexit
  · intro hzero
    exact absurd hzero hexit

theorem writesPrinted_of_write {i : Invocation} {path text : Text} {written : FileTree}
    (hread : readArguments args = .ok i)
    (hplan : i.withoutOutput.plan (environment stdin tree) =
      .finish (.success (String.ofList text)))
    (hwrite : tree.write path text = .ok written) :
    WritesPrinted i stdin tree written path text := by
  obtain ⟨location, hlocate, hoverwrites, htext⟩ := FileTree.exists_overwrites_of_write hwrite
  refine ⟨⟨location, hlocate, hoverwrites⟩, htext, exists_readArguments_withoutOutput hread, ?_⟩
  intro plain hplain
  have hfinish : plan plain (environment stdin tree) = .finish (.success (String.ofList text)) := by
    simp only [plan, hplain, hplan]
  calc runOn plain stdin tree
      = (plan plain (environment stdin tree)).carryOut tree := rfl
    _ = (.success (String.ofList text), tree) := by rw [hfinish]; rfl

/-- Carrying out a plan is the only step that changes a file, and it comes last. -/
theorem Planned.allOrNothing_carryOut {p : Plan} (h : Planned args (environment stdin tree) p) :
    AllOrNothing args stdin tree (p.carryOut tree).1 (p.carryOut tree).2 := by
  cases h with
  | failed outcome exit_ne stdout_eq =>
    exact .of_exit_ne exit_ne stdout_eq
  | printed stdout outputPath?_eq =>
    refine ⟨fun hexit => absurd rfl hexit, fun _ _ => rfl, ?_⟩
    intro _ i path hread hpath
    simp [outputPath?, hread, hpath] at outputPath?_eq
  | writing i path text read_eq outputPath?_eq plan_eq =>
    cases hwrite : tree.write path text with
    | error cause =>
      simp only [Plan.carryOut, hwrite]
      exact .of_exit_ne Nat.one_ne_zero rfl
    | ok written =>
      simp only [Plan.carryOut, hwrite]
      refine ⟨fun hexit => absurd rfl hexit, ?_, ?_⟩
      · intro _ hnone
        simp [outputPath?, read_eq, outputPath?_eq] at hnone
      · intro _ i' path' hread hpath
        obtain rfl := Except.ok.inj (read_eq.symm.trans hread)
        obtain rfl := Option.some.inj (outputPath?_eq.symm.trans hpath)
        exact ⟨text, writesPrinted_of_write read_eq plan_eq hwrite⟩

end Runs

/-- A run is all or nothing. If it fails, it has printed nothing and changed no file. If it
succeeds, it has changed no file but the output file that its arguments ask for, and that one holds
what the same command prints without an output file. -/
theorem runOn_allOrNothing (args : List String) (stdin : Except FileError Text) (tree : FileTree) :
    AllOrNothing args stdin tree (runOn args stdin tree).1 (runOn args stdin tree).2 :=
  (planned_plan args (environment stdin tree)).allOrNothing_carryOut

/-- A page with a style. -/
def pageTree : FileTree where
  workingDirectory := []
  nodes := [(["p.html".toList], .file (.text "<style>a</style>".toList))]

example :
    runOn ["extract", "p.html", "-oa.css"] (.ok []) pageTree =
      (.success "", { pageTree with
        nodes := pageTree.nodes ++ [(["a.css".toList], .file (.text "a\n".toList))] }) ∧
      runOn ["extract", "p.html"] (.ok []) pageTree = (.success "a\n", pageTree) ∧
      runOn ["extract", "p.html", "-ob/a.css"] (.ok []) pageTree =
        (.failure "Error" (.file .notFound), pageTree) := by
  decide +kernel

end Excerpt.CommandLine
