import Scaffold.Proofs.Run.Rewriting

/-!
A dry run beside a real one. It fails only where a path is refused, and what it lists is what the real run
deals out to the files written and the files skipped.
-/
namespace Scaffold

/- The items of a list dealt out to two, each of which keeps the order. -/
inductive Dealt {α : Type} : (left right whole : List α) → Prop where
  | none : Dealt [] [] []
  | left {item left right whole} (rest : Dealt left right whole) : Dealt (item :: left) right (item :: whole)
  | right {item left right whole} (rest : Dealt left right whole) : Dealt left (item :: right) (item :: whole)

variable {root path : Path} {options : WriteOptions} {file : File} {files : List File}
  {before after : Workspace} {report : Report} {project : Project}

theorem reportDealt (report : Report) :
    Dealt report.written report.skipped (report.map Outcome.path) := by
  induction report with
  | nil => exact .none
  | cons outcome rest ih =>
    cases outcome with
    | written path => exact .left ih
    | skipped path => exact .right ih

theorem reportedAccepted
    (reported : List.Forall₂ (fun file outcome => Aims root file.path outcome.path) files report) :
    ∀ file ∈ files, ∃ path, Aims root file.path path := by
  induction reported with
  | nil => exact fun file member => absurd member List.not_mem_nil
  | cons aims _ ih => exact List.forall_mem_cons.mpr ⟨⟨_, aims⟩, ih⟩

theorem acceptedOrRefused (root : Path) (files : List File) :
    (∀ file ∈ files, ∃ path, Aims root file.path path) ∨
      ∃ file ∈ files, ∃ refusal, target root file.path = .error refusal := by
  induction files with
  | nil => exact .inl fun file member => absurd member List.not_mem_nil
  | cons first rest ih =>
    cases goal : target root first.path with
    | error refusal => exact .inr ⟨first, List.mem_cons_self, refusal, goal⟩
    | ok path =>
      cases ih with
      | inl accepted => exact .inl (List.forall_mem_cons.mpr ⟨⟨path, targetIff.mp goal⟩, accepted⟩)
      | inr refused =>
        obtain ⟨file, member, refused⟩ := refused
        exact .inr ⟨file, List.mem_cons_of_mem _ member, refused⟩

/- A dry run meets no fault of the files, so that a refused path is all that can end it. -/
theorem dryAnnounces {result : Except Failure Report} (dry : options.dryRun = true)
    (ran : Ran root options files before result after)
    (accepted : ∀ file ∈ files, ∃ path, Aims root file.path path) :
    ∃ report, result = .ok report ∧ ∀ outcome ∈ report, outcome = .written outcome.path := by
  induction ran with
  | done => exact ⟨[], rfl, fun outcome member => absurd member List.not_mem_nil⟩
  | @stopped file rest before failure after gone =>
    obtain ⟨path, aims⟩ := accepted file List.mem_cons_self
    cases gone with
    | refused refused => cases (targetIff.mpr aims).symm.trans refused
    | closed _ _ real | unwritten _ _ real => cases dry.symm.trans real
  | @next file rest before outcome between result after gone ran ih =>
    obtain ⟨report, same, writes⟩ := ih fun other member => accepted other (List.mem_cons_of_mem _ member)
    subst same
    cases gone with
    | announced => exact ⟨_, rfl, List.forall_mem_cons.mpr ⟨rfl, writes⟩⟩
    | skipped _ real | written _ real => cases dry.symm.trans real

theorem announcedReport (writes : ∀ outcome ∈ report, outcome = .written outcome.path) :
    report.written = report.map Outcome.path ∧ report.skipped = [] := by
  rw [reportAlike writes]
  simp [Report.written, Report.skipped, Outcome.written?, Outcome.skipped?, Outcome.path, Function.comp_def]

theorem projectReported (went : ((writeProject project root options).on before).1 = .ok report) :
    List.Forall₂ (fun file outcome => Aims root file.path outcome.path) project.resolved report := by
  obtain ⟨after, events, ran, -⟩ := projectRuns project root options before
  rw [went] at ran
  exact ranReported ran

theorem dryProject (dry : options.dryRun = true) (before : Workspace)
    (accepted : ∀ file ∈ project.resolved, ∃ path, Aims root file.path path) :
    ∃ foreseen, ((writeProject project root options).on before).1 = .ok foreseen ∧
      foreseen.written.map .ok = project.resolved.map (fun file => target root file.path) ∧
      foreseen.written = foreseen.map Outcome.path ∧ foreseen.skipped = [] := by
  obtain ⟨after, events, ran, -⟩ := projectRuns project root options before
  obtain ⟨foreseen, went, writes⟩ := dryAnnounces dry ran accepted
  obtain ⟨written, skipped⟩ := announcedReport writes
  refine ⟨foreseen, went, ?_, written, skipped⟩
  rw [written, reportPaths (projectReported went)]

theorem dryFailsIff (dry : options.dryRun = true) :
    (∃ failure, ((writeProject project root options).on before).1 = .error failure) ↔
      ∃ file ∈ project.resolved, ∃ refusal, target root file.path = .error refusal := by
  constructor
  · intro ⟨failure, failed⟩
    cases acceptedOrRefused root project.resolved with
    | inr refused => exact refused
    | inl accepted =>
      obtain ⟨foreseen, went, -⟩ := dryProject dry before accepted
      cases failed.symm.trans went
  · intro ⟨file, member, refusal, refused⟩
    cases ended : ((writeProject project root options).on before).1 with
    | error failure => exact ⟨failure, rfl⟩
    | ok report =>
      obtain ⟨path, aims⟩ := reportedAccepted (projectReported ended) file member
      cases (targetIff.mpr aims).symm.trans refused

theorem dryRunForesees (project : Project) (root : Path) (force : Bool) (before : Workspace) :
    ((∃ failure, ((writeProject project root ⟨force, true⟩).on before).1 = .error failure) ↔
      ∃ file ∈ project.resolved, ∃ refusal, target root file.path = .error refusal) ∧
    ∀ report, ((writeProject project root ⟨force, false⟩).on before).1 = .ok report →
      ∃ foreseen, ((writeProject project root ⟨force, true⟩).on before).1 = .ok foreseen ∧
        foreseen.written.map .ok = project.resolved.map (fun file => target root file.path) ∧
        foreseen.skipped = [] ∧ Dealt report.written report.skipped foreseen.written := by
  have dry : (⟨force, true⟩ : WriteOptions).dryRun = true := rfl
  refine ⟨dryFailsIff dry, fun report went => ?_⟩
  have reported := projectReported went
  obtain ⟨foreseen, ahead, targets, paths, skipped⟩ := dryProject dry before (reportedAccepted reported)
  -- both runs report the same targets, and the real one deals them out
  have same := (reportPaths (projectReported ahead)).symm.trans (reportPaths reported)
  have same := List.map_injective_iff.mpr (fun _ _ => Except.ok.inj) same
  refine ⟨foreseen, ahead, targets, skipped, ?_⟩
  rw [paths, same]
  exact reportDealt report

/- One file is there, two have the same place, and one comes in between. -/
theorem draftsForeseen : ∃ report foreseen,
    ((writeProject drafts ⟨"."⟩ ⟨false, false⟩).on desk).1 = .ok report ∧
    ((writeProject drafts ⟨"."⟩ ⟨false, true⟩).on desk).1 = .ok foreseen ∧
    report.written = [⟨"./plans/may.md"⟩] ∧ report.skipped = [⟨"./notes.md"⟩, ⟨"./plans/may.md"⟩] ∧
    Dealt report.written report.skipped foreseen.written := by
  have went : ((writeProject drafts ⟨"."⟩ ⟨false, false⟩).on desk).1 =
      .ok [.written ⟨"./plans/may.md"⟩, .skipped ⟨"./notes.md"⟩, .skipped ⟨"./plans/may.md"⟩] := by
    decide +kernel
  obtain ⟨foreseen, ahead, -, -, dealt⟩ := (dryRunForesees drafts ⟨"."⟩ false desk).2 _ went
  exact ⟨_, foreseen, went, ahead, rfl, rfl, dealt⟩

end Scaffold
