import Scaffold.Proofs.CommandLine.Printing
import Scaffold.Proofs.Run.Archive

/-!
What a command leaves alone, however it ends. Only a generation in earnest that has its backend and
its settings changes files: those of the project, and the archive.
-/
namespace Scaffold
open FileTree

variable {before between : Workspace}

namespace CommandLine
open Scaffold.Task

variable {environment : Environment} {command : Command} {generation : Generation}
  {backend : Backend} {config : Config} {settled : Workspace} {places : Location → Prop}

theorem closingTouches (lines : List String) (last : String) (workspace : Workspace) :
    Touches places workspace
      ((printAll lines >>= fun _ => Task.print last : Task Session Unit).on workspace).2 := by
  refine bindTouches ?_ fun _ _ _ => touchesSame rfl rfl
  rw [onPrintAll]
  exact touchesSame rfl rfl

theorem generationTouches (loads : generation.source.load.on before = (.ok backend, between))
    (resolves : (resolveConfig environment generation.source generation.config generation.order
      generation.packageName).on between = (.ok config, settled))
    (project : ∀ ready : Workspace, ready.tree = before.tree → ready.current = before.current →
      Touches places ready
        ((writeProject (Scaffold.generate backend config) generation.output
          ⟨generation.force, generation.dryRun⟩).on ready).2)
    (archive : ∀ path, generation.archive = some path → places (path.destination before.current)) :
    Touches places before ((runGenerate environment generation).on before).2 := by
  have first := toldQuiet (sourceQuiet _) loads
  have second := toldQuiet (resolveQuiet _ _ _ _ _) resolves
  obtain ⟨ready, generates, third⟩ := generateTells backend config settled
  have quiet := toldNext first (toldNext second third)
  rw [runGenerate, onNext loads, onNext resolves, onNext generates]
  refine touchesTrans (touchesSame quiet.tree quiet.current) ?_
  refine bindTouches ?_ fun report written place => ?_
  · rw [withinLeaves]
    exact project ready quiet.tree quiet.current
  split
  · exact closingTouches _ _ _
  · next path asked =>
    split
    · exact bindTouches (touchesSame rfl rfl) fun _ between _ => closingTouches _ _ _
    · refine bindTouches (touchesWiden (archiveTouches _ path _) ?_) fun _ between _ =>
        bindTouches (touchesSame rfl rfl) fun _ _ _ => closingTouches _ _ _
      rintro location rfl
      rw [place, quiet.current]
      exact archive path asked

def Keeps {α : Type} (task : Task Session α) : Prop :=
  ∀ workspace, (task.on workspace).2.tree = workspace.tree

theorem keepsBind {α β : Type} {task : Task Session α} {next : α → Task Session β}
    (first : Keeps task) (later : ∀ value, Keeps (next value)) : Keeps (task >>= next) := by
  intro workspace
  have left := first workspace
  refine bindLeaves (fun after => after.tree = workspace.tree) (fun failure between went => ?_)
    fun value between went => ?_ <;> rw [went] at left
  · exact left
  · exact (later value between).trans left

theorem keepsQuiet {α : Type} {task : Task Session α} (quiet : Quiet task) : Keeps task := by
  intro workspace
  obtain ⟨events, left⟩ := quiet workspace
  rw [left]

theorem keepsPrint (line : String) : Keeps (Task.print line) :=
  fun _ => rfl

theorem keepsPrintAll (lines : List String) : Keeps (printAll lines) := by
  intro workspace
  rw [onPrintAll]

theorem keepsGenerate (backend : Backend) (config : Config) : Keeps (generateNoting backend config) := by
  intro workspace
  obtain ⟨events, generates⟩ := onGenerate backend config workspace
  rw [generates]

theorem keepsDry {root : Path} {options : WriteOptions} (dry : options.dryRun = true)
    (context : String) (project : Project) :
    Keeps (Task.within context (writeProject project root options)) := by
  intro workspace
  rw [withinLeaves]
  exact (projectFramed project root options workspace).dry dry

theorem inspectKeeps (environment : Environment) (source : Source) (file : Option Path)
    (order : Option Migration.Order) : Keeps (runInspect environment source file order) :=
  keepsBind (keepsQuiet (sourceQuiet source)) fun backend =>
    keepsBind (keepsQuiet (resolveQuiet environment source file order none)) fun config =>
      keepsBind (keepsGenerate backend config) fun _ =>
        keepsBind (keepsPrintAll _) fun _ => keepsPrintAll _

theorem mockKeeps (prompt : String) : Keeps (runMock prompt) :=
  keepsBind (keepsQuiet (sourceQuiet (.prompt prompt))) fun _ => keepsPrint _

theorem dryKeeps (environment : Environment) (dry : generation.dryRun = true) :
    Keeps (runGenerate environment generation) := by
  refine keepsBind (keepsQuiet (sourceQuiet _)) fun backend =>
    keepsBind (keepsQuiet (resolveQuiet _ _ _ _ _)) fun config =>
      keepsBind (keepsGenerate backend config) fun project =>
        keepsBind (keepsDry dry _ project) fun report => ?_
  split
  · exact keepsBind (keepsPrintAll _) fun _ => keepsPrint _
  · rw [if_pos dry]
    exact keepsBind (keepsPrint _) fun _ => keepsBind (keepsPrintAll _) fun _ => keepsPrint _

/- The commands that write nothing: two kinds always, a generation when it is dry or is stopped by what
it needs. -/
inductive Idle (environment : Environment) (before : Workspace) : Command → Prop where
  | inspected (source : Source) (file : Option Path) (order : Option Migration.Order) :
      Idle environment before (.inspect source file order)
  | mocked (prompt : String) : Idle environment before (.mock prompt)
  | dry {generation : Generation} (dry : generation.dryRun = true) :
      Idle environment before (.generate generation)
  | unloaded {generation : Generation} {failure : Failure} {between : Workspace}
      (loads : generation.source.load.on before = (.error failure, between)) :
      Idle environment before (.generate generation)
  | unsettled {generation : Generation} {backend : Backend} {failure : Failure}
      {between settled : Workspace}
      (loads : generation.source.load.on before = (.ok backend, between))
      (resolves : (resolveConfig environment generation.source generation.config generation.order
        generation.packageName).on between = (.error failure, settled)) :
      Idle environment before (.generate generation)
  | ungenerated {generation : Generation} {backend : Backend} {config : Config} {failure : Failure}
      {between settled ready : Workspace}
      (loads : generation.source.load.on before = (.ok backend, between))
      (resolves : (resolveConfig environment generation.source generation.config generation.order
        generation.packageName).on between = (.ok config, settled))
      (generates : (generateNoting backend config).on settled = (.error failure, ready)) :
      Idle environment before (.generate generation)

/- The command is a generation in earnest that has its backend and its settings. -/
structure Proceeds (environment : Environment) (before : Workspace) (command : Command)
    (generation : Generation) (backend : Backend) (config : Config) : Prop where
  command : command = .generate generation
  real : generation.dryRun = false
  ready : ∃ between settled, generation.source.load.on before = (.ok backend, between) ∧
    (resolveConfig environment generation.source generation.config generation.order
      generation.packageName).on between = (.ok config, settled)

theorem idleOrProceeds (environment : Environment) (before : Workspace) (command : Command) :
    Idle environment before command ∨
      ∃ generation backend config, Proceeds environment before command generation backend config := by
  cases command with
  | inspect source file order => exact .inl (.inspected source file order)
  | mock prompt => exact .inl (.mocked prompt)
  | generate generation =>
    by_cases dry : generation.dryRun = true
    · exact .inl (.dry dry)
    rcases loads : generation.source.load.on before with ⟨failure | backend, between⟩
    · exact .inl (.unloaded loads)
    rcases resolves : (resolveConfig environment generation.source generation.config
      generation.order generation.packageName).on between with ⟨failure | config, settled⟩
    · exact .inl (.unsettled loads resolves)
    · exact .inr ⟨generation, backend, config, rfl, by simpa using dry, between, settled, loads,
        resolves⟩

theorem idleKeeps (idle : Idle environment before command) :
    ((command.run environment).on before).2.tree = before.tree := by
  cases idle with
  | inspected source file order => exact inspectKeeps environment source file order before
  | mocked prompt => exact mockKeeps prompt before
  | dry dry => exact dryKeeps environment dry before
  | unloaded loads =>
    have left := toldQuiet (sourceQuiet _) loads
    rw [Command.run, runGenerate, onBind, loads]
    exact left.tree
  | unsettled loads resolves =>
    have first := toldQuiet (sourceQuiet _) loads
    have second := toldQuiet (resolveQuiet _ _ _ _ _) resolves
    rw [Command.run, runGenerate, onNext loads, onBind, resolves]
    exact (toldNext first second).tree
  | ungenerated loads resolves generates =>
    obtain ⟨events, went⟩ := onGenerate _ _ _
    rw [went] at generates
    cases generates

def Targets (generation : Generation) (project : Project) (current location : Location) : Prop :=
  ∃ file ∈ project.resolved, ∃ path, Aims generation.output file.path path ∧
    location = path.destination current

def IsArchive (generation : Generation) (current location : Location) : Prop :=
  ∃ path, generation.archive = some path ∧ location = path.destination current

/-- What holds of a command, whether it ends well or not. -/
structure CommandFrame (environment : Environment) (command : Command) (before after : Workspace) :
    Prop where
  idle : Idle environment before command → after.tree = before.tree
  kept : before.tree.Persists after.tree
  changed : ∀ generation backend config,
    Proceeds environment before command generation backend config →
      ∀ location, after.tree.file? location ≠ before.tree.file? location →
        Targets generation (Scaffold.generate backend config) before.current location ∨
          IsArchive generation before.current location
  spared : ∀ generation, command = .generate generation → generation.force = false →
    before.Guarded generation.output →
      ∀ location content, before.tree.file? location = some content →
        ¬ IsArchive generation before.current location →
          after.tree.file? location = some content

/- The places that the writer touches are those of its frame, seen from before the run: until then nothing
but events has changed. -/
theorem proceedsFramed
    (proceeds : Proceeds environment before command generation backend config)
    (archived : ∀ location, IsArchive generation before.current location → places location)
    (kept : ∀ ready written, ready.tree = before.tree → ready.current = before.current →
      Framed generation.output ⟨generation.force, generation.dryRun⟩
        (Scaffold.generate backend config).resolved ready written →
      ∀ location, ¬ places location → written.tree.file? location = ready.tree.file? location) :
    Touches places before ((command.run environment).on before).2 := by
  obtain ⟨rfl, -, between, settled, loads, resolves⟩ := proceeds
  refine generationTouches loads resolves (fun ready same place => ?_) fun path asked =>
    archived _ ⟨path, asked, rfl⟩
  have framed := projectFramed (Scaffold.generate backend config) generation.output
    ⟨generation.force, generation.dryRun⟩ ready
  exact ⟨framed.current, framed.persists, kept ready _ same place framed⟩

theorem proceedsTouches
    (proceeds : Proceeds environment before command generation backend config) :
    Touches
      (fun location =>
        Targets generation (Scaffold.generate backend config) before.current location ∨
          IsArchive generation before.current location)
      before ((command.run environment).on before).2 := by
  refine proceedsFramed proceeds (fun _ archived => .inr archived)
    fun ready written _ place framed location apart => ?_
  by_contra different
  refine apart (.inl ?_)
  rw [← place]
  exact framed.changed location different

theorem proceedsSpares
    (proceeds : Proceeds environment before command generation backend config)
    (unforced : generation.force = false) (guarded : before.Guarded generation.output) :
    Touches
      (fun location => before.tree.file? location = none ∨
        IsArchive generation before.current location)
      before ((command.run environment).on before).2 := by
  refine proceedsFramed proceeds (fun _ archived => .inr archived)
    fun ready written same place framed location apart => ?_
  have guarded : ready.Guarded generation.output :=
    guardedLater guarded place (same ▸ guarded.rooted) (same ▸ persistsSelf _)
  rw [not_or, ← same] at apart
  obtain ⟨content, found⟩ := Option.ne_none_iff_exists'.mp apart.1
  rw [found, framed.spared unforced guarded location content found]

theorem commandFrame (environment : Environment) (command : Command) (before : Workspace) :
    CommandFrame environment command before ((command.run environment).on before).2 := by
  refine ⟨idleKeeps, ?_, fun _ _ _ proceeds location different => ?_, ?_⟩
  · rcases idleOrProceeds environment before command with idle | ⟨_, _, _, proceeds⟩
    · rw [idleKeeps idle]
      exact persistsSelf _
    · exact (proceedsTouches proceeds).persists
  · by_contra apart
    exact different ((proceedsTouches proceeds).others location apart)
  · rintro generation rfl unforced guarded location content found other
    rcases idleOrProceeds environment before (.generate generation) with
      idle | ⟨_, backend, config, proceeds⟩
    · rw [idleKeeps idle, found]
    · cases proceeds.command
      refine ((proceedsSpares proceeds unforced guarded).others location ?_).trans found
      rintro (none | archived)
      · rw [found] at none
        contradiction
      · exact other archived

/- A schema is there already, and a file where the directory of the migrations would be: a generation
ends after the schema. -/
def shelf : Workspace where
  tree :=
    { entries := [(["schema.prisma", "prisma"], .file "mine".toUTF8), (["prisma"], .directory),
        (["migrations", "prisma"], .file "later".toUTF8)] }

def onShelf (output : Path) : Generation where
  source := .prompt "x"
  output := output

theorem shelfGuarded : shelf.Guarded ⟨"."⟩ := by
  refine ⟨rootedListed fun listed member => ?_, rfl, trivial⟩
  simp only [shelf, List.mem_cons, List.not_mem_nil, or_false] at member
  rcases member with rfl | rfl | rfl
  · rfl
  · exact entryTop _
  · rfl

theorem shelfProceeds (output : Path) : Proceeds (fun _ => none) shelf (.generate (onShelf output))
    (onShelf output) Sample.backend {} :=
  ⟨rfl, rfl, _, _, rfl, rfl⟩

theorem shelfKept :
    ((Command.run (fun _ => none) (.generate (onShelf ⟨"."⟩))).on shelf).2.tree.file?
      ["schema.prisma", "prisma"] = some "mine".toUTF8 := by
  have frame := commandFrame (fun _ => none) (.generate (onShelf ⟨"."⟩)) shelf
  refine frame.spared _ rfl rfl shelfGuarded _ _ (by decide +kernel) ?_
  rintro ⟨_, asked, _⟩
  contradiction

/- The schema is looked for before the output directory can be stepped through, and not again once the
missing directory has been made. -/
theorem strayOutputOverwrites :
    shelf.Guarded ⟨"."⟩ ∧
      Proceeds (fun _ => none) shelf (.generate (onShelf ⟨"missing/.."⟩)) (onShelf ⟨"missing/.."⟩)
        Sample.backend {} ∧
      (onShelf ⟨"missing/.."⟩).force = false ∧ (onShelf ⟨"missing/.."⟩).archive = none ∧
      ¬ ∀ location content, shelf.tree.file? location = some content →
        ((Command.run (fun _ => none) (.generate (onShelf ⟨"missing/.."⟩))).on shelf).2.tree.file?
          location = some content := by
  refine ⟨shelfGuarded, shelfProceeds _, rfl, rfl, fun spared => ?_⟩
  have kept := spared ["schema.prisma", "prisma"] "mine".toUTF8 (by decide +kernel)
  revert kept
  decide +kernel

end CommandLine
end Scaffold
