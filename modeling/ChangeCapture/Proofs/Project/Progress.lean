import ChangeCapture.Proofs.Project.Rehearsal

namespace ChangeCapture.Project

variable {layout : Layout} {path : Path} {before after : Desk} {isDryRun : Bool} {compilation : Compilation}

def IsKept (before after : Tree) (path : Path) : Prop := after.held? path = before.held? path

-- How far writing may have got: the file of the flow is not replaced before that of the
-- registry, and each of them is replaced as a whole.
def Preparation.HasAdvanced (made : Preparation) (layout : Layout) (before after : Tree) : Prop :=
  (IsKept before after layout.registry ∧ IsKept before after layout.flow) ∨
    (Artifacts.Carries after layout.registry made.registryText ∧
      (IsKept before after layout.flow ∨ Artifacts.Carries after layout.flow made.flowText))

namespace Preparation

variable {made : Preparation}

theorem hasAdvanced_of_within {done left : Artifacts} {before after : Tree} (apart : layout.registry.place ≠ layout.flow.place)
    (parted : [(layout.registry, made.registryText), (layout.flow, made.flowText)] = done ++ left)
    (within : Tree.Within (done.map fun artifact => artifact.1.place) before after)
    (current : ∀ artifact ∈ done, Artifacts.isCurrent after artifact.1 artifact.2 = .ok true) :
    made.HasAdvanced layout before after := by
  -- Neither file is replaced, or only the registry's, which is the first, or both.
  rcases done with - | ⟨first, - | ⟨second, more⟩⟩
  · exact .inl ⟨within.held? List.not_mem_nil, within.held? List.not_mem_nil⟩
  · obtain ⟨rfl, -⟩ := List.cons.inj parted
    have ofRegistry := current _ (List.mem_cons_self ..)
    exact .inr ⟨Artifacts.carries_of_isCurrent ofRegistry, .inl (within.held? (by simpa using apart.symm))⟩
  · obtain ⟨rfl, rest⟩ := List.cons.inj parted
    obtain ⟨rfl, -⟩ := List.cons.inj rest
    have ofRegistry := current _ (List.mem_cons_self ..)
    have ofFlow := current _ (List.mem_cons_of_mem _ (List.mem_cons_self ..))
    exact .inr ⟨Artifacts.carries_of_isCurrent ofRegistry, .inr (Artifacts.carries_of_isCurrent ofFlow)⟩

theorem hasAdvanced_of_write (registry : layout.registry.IsPlain) (flow : layout.flow.IsPlain)
    (apart : layout.registry.place ≠ layout.flow.place) {outcome : Except Stopped (List Path)}
    (ended : Work.Ends (Artifacts.write (made.artifacts layout)) before outcome after) :
    made.HasAdvanced layout before.disk.tree after.disk.tree ∧
      (∀ reason, outcome = .error reason → Artifacts.IsRefusal reason) ∧ ∀ written, outcome = .ok written →
        Artifacts.Carries after.disk.tree layout.registry made.registryText ∧
          Artifacts.Carries after.disk.tree layout.flow made.flowText := by
  rw [artifacts, artifacts_of_apart apart] at ended
  have plain : ∀ artifact ∈ [(layout.registry, made.registryText), (layout.flow, made.flowText)], artifact.1.IsPlain := by
    simpa using ⟨registry, flow⟩
  obtain ⟨done, left, parted, within, current, finished⟩ := Artifacts.advances_write plain (by simpa using apart) ended
  refine ⟨hasAdvanced_of_within apart parted within current, fun reason stopped => ?_, fun written whole => ?_⟩
  · subst stopped
    exact Artifacts.isRefusal_of_write plain ended
  · rw [finished written whole, List.append_nil] at parted
    subst parted
    exact ⟨Artifacts.carries_of_isCurrent (current (layout.registry, made.registryText) (by simp)),
      Artifacts.carries_of_isCurrent (current (layout.flow, made.flowText) (by simp))⟩

theorem ends_write (registry : layout.registry.IsPlain) (flow : layout.flow.IsPlain)
    (apart : layout.registry.place ≠ layout.flow.place) {outcome : Except Stopped (List Path × List Violation)}
    (ended : Work.Ends (made.write layout).run before outcome after) :
    made.HasAdvanced layout before.disk.tree after.disk.tree ∧
      (∀ reason, outcome = .error reason → Artifacts.IsRefusal reason) ∧
      ∀ result, outcome = .ok result → Artifacts.Carries after.disk.tree layout.registry made.registryText ∧
        Artifacts.Carries after.disk.tree layout.flow made.flowText := by
  rcases Job.ends_run_bind ended with ⟨reason, rfl, stopped⟩ | ⟨written, middle, writes, ended⟩
  · obtain ⟨advanced, refused, -⟩ := hasAdvanced_of_write registry flow apart stopped
    refine ⟨advanced, fun other same => ?_, fun result same => by cases same⟩
    cases same
    exact refused reason rfl
  · obtain ⟨advanced, -, both⟩ := hasAdvanced_of_write registry flow apart writes
    have verifies : Job.Reads (do
        let violations ← verifyPaths made.paths layout.registry layout.flow
        return (written, violations)) := Job.reads_bind (reads_verifyPaths _ _ _) fun _ => Job.reads_pure _
    have stops : Job.StopsBy [] (do
        let violations ← verifyPaths made.paths layout.registry layout.flow
        return (written, violations)) := Job.stopsBy_bind (stopsBy_verifyPaths _ _ _) fun _ => Job.stopsBy_pure _
    rw [Job.disk_of_reads verifies ended]
    refine ⟨advanced, fun reason same => ?_, fun _ _ => both written rfl⟩
    subst same
    have listed := stops middle reason after ended
    cases reason with
    | failure failure => cases listed
    | mishap mishap => trivial

theorem reads_rehearsal (made : Preparation) (layout : Layout) (path : Path) :
    Job.Reads (made.carryOut layout true >>= made.report path true) :=
  Job.reads_bind (Job.reads_bind (reads_verifyUnwritten _ _ _) fun _ => Job.reads_pure _) fun _ disk =>
    ⟨_, made.keeps_report _ _ _ disk⟩

theorem code_of_compiled {written : List Path} {violations : List Violation}
    (told : reported path isDryRun (.ok (made.compiled path isDryRun written violations)) = .ok compilation) :
    compilation.status.code ∈ [0, 5] := by
  cases violations with
  | nil =>
    cases told
    exact List.mem_cons_self ..
  | cons first rest =>
    cases told
    exact List.mem_cons_of_mem _ (List.mem_cons_self ..)

end Preparation

theorem compileSpecs_cases {outcome : Except Stopped Compiled}
    (ended : Work.Ends (compileSpecs layout path isDryRun).run before outcome after) :
    (∃ reason, outcome = .error reason ∧ reason.IsOf preparationKinds ∧ after.disk = before.disk ∧
      ∀ made, ¬Job.Keeps (prepare layout path) before.disk made) ∨
      ∃ made middle, Job.Keeps (prepare layout path) before.disk made ∧ middle.disk = before.disk ∧
        Work.Ends (made.carryOut layout isDryRun >>= made.report path isDryRun).run middle outcome after := by
  rw [compileSpecs_eq] at ended
  rcases Job.ends_run_bind ended with ⟨reason, -, stopped⟩ | ⟨_, told, tells, ended⟩
  · cases congrArg Prod.fst stopped
  · have same : told.disk = before.disk := by rw [← Work.ends_tell_iff.mp (Job.ends_lift_iff.mp tells)]
    -- The first part only reads, so it comes to the same whatever the log holds already.
    obtain ⟨prepared, kept⟩ := reads_prepare layout path before.disk
    rw [← same] at kept ⊢
    rcases Job.ends_run_bind ended with ⟨reason, rfl, stopped⟩ | ⟨made, middle, makes, ended⟩
    · left
      refine ⟨reason, rfl, stopsBy_prepare layout path told reason after stopped,
        Job.disk_of_reads (reads_prepare layout path) stopped, fun made makes => ?_⟩
      cases (makes.unique stopped).1
    · obtain ⟨rfl, -⟩ := kept.unique makes
      exact .inr ⟨made, middle, kept, Job.disk_of_reads (reads_prepare layout path) makes, ended⟩

-- What a run leaves of the files of its registry and its flow: both as they were, or the
-- registry's new and the flow's as it was, or both new, and never a part of a text.
structure LeavesInOrder (layout : Layout) (path : Path) (isDryRun : Bool) (before after : Disk) (compilation : Compilation) :
    Prop where
  advanced : (IsKept before.tree after.tree layout.registry ∧ IsKept before.tree after.tree layout.flow) ∨
    ∃ made, Job.Keeps (prepare layout path) before made ∧ Artifacts.Carries after.tree layout.registry made.registryText ∧
      (IsKept before.tree after.tree layout.flow ∨ Artifacts.Carries after.tree layout.flow made.flowText)
  untouched : isDryRun ∨ compilation.status.code ∈ [2, 3, 4] → after = before
  complete : isDryRun = false → compilation.status.code ∈ [0, 5] → ∃ made, Job.Keeps (prepare layout path) before made ∧
    Artifacts.Carries after.tree layout.registry made.registryText ∧ Artifacts.Carries after.tree layout.flow made.flowText
  refused : isDryRun = false → ∀ made, Job.Keeps (prepare layout path) before made →
    ¬Artifacts.Carries after.tree layout.flow made.flowText →
      ∃ failure, compilation.failure = some failure ∧ failure.kind = .writeFailed

namespace LeavesInOrder

variable {disk last : Disk} {made : Preparation}

theorem of_dryRun : LeavesInOrder layout path true disk disk compilation where
  advanced := .inl ⟨rfl, rfl⟩
  untouched _ := rfl
  complete wet := Bool.noConfusion wet
  refused wet := Bool.noConfusion wet

theorem of_unprepared {failure : Failure} (listed : failure.kind ∈ preparationKinds)
    (none : ∀ made, ¬Job.Keeps (prepare layout path) disk made) :
    LeavesInOrder layout path isDryRun disk disk (.failed path isDryRun failure []) where
  advanced := .inl ⟨rfl, rfl⟩
  untouched _ := rfl
  complete _ late := by
    have early : ∀ kind ∈ preparationKinds, kind.exitStatus.code ∉ [0, 5] := by decide
    exact absurd late (early failure.kind listed)
  refused _ made makes := absurd makes (none made)

theorem of_unwritten {failure : Failure} (makes : Job.Keeps (prepare layout path) disk made)
    (advanced : made.HasAdvanced layout disk.tree last.tree) (isWriting : failure.kind = .writeFailed) :
    LeavesInOrder layout path false disk last (.failed path false failure []) := by
  have code : (Compilation.failed path false failure []).status.code = 1 := by
    rw [Compilation.failed, isWriting]
    rfl
  refine ⟨advanced.imp_right fun new => ⟨made, makes, new⟩, fun early => ?_, fun _ late => ?_, fun _ _ _ _ => ?_⟩
  · rw [code] at early
    simp at early
  · rw [code] at late
    simp at late
  · exact ⟨failure, rfl, isWriting⟩

theorem of_verified (makes : Job.Keeps (prepare layout path) disk made) (verified : compilation.status.code ∈ [0, 5])
    (ofRegistry : Artifacts.Carries last.tree layout.registry made.registryText)
    (ofFlow : Artifacts.Carries last.tree layout.flow made.flowText) :
    LeavesInOrder layout path false disk last compilation where
  advanced := .inr ⟨made, makes, ofRegistry, .inr ofFlow⟩
  untouched early := by
    simp only [Bool.false_eq_true, false_or, List.mem_cons, List.not_mem_nil, or_false] at early verified
    omega
  complete _ _ := ⟨made, makes, ofRegistry, ofFlow⟩
  refused _ other same missing := by
    obtain ⟨_, again⟩ := same []
    obtain ⟨_, first⟩ := makes []
    cases (Job.ends_unique first again).1
    exact absurd ofFlow missing

end LeavesInOrder

-- Whatever fails, a run leaves its files in order. It leaves all as it was in a dry run and
-- when it fails before writing; both files are new when it comes to its verification; and
-- only a file that cannot be written keeps the flow's old.
theorem files_of_compile (registry : layout.registry.IsPlain) (flow : layout.flow.IsPlain)
    (apart : layout.registry.place ≠ layout.flow.place)
    (ended : Work.Ends (compile layout path isDryRun) before (.ok compilation) after) :
    LeavesInOrder layout path isDryRun before.disk after.disk compilation := by
  obtain ⟨outcome, last, ran, told, same⟩ := reported_of_compile ended
  rw [same]
  rcases compileSpecs_cases ran with ⟨reason, rfl, listed, kept, none⟩ | ⟨made, middle, makes, sameDisk, concluded⟩
  · rw [kept]
    cases reason with
    | mishap mishap => cases told
    | failure failure =>
      cases told
      exact .of_unprepared listed none
  · rw [← sameDisk] at makes ⊢
    cases isDryRun with
    | true =>
      rw [Job.disk_of_reads (made.reads_rehearsal layout path) concluded]
      exact .of_dryRun
    | false =>
      rcases Job.ends_run_bind concluded with ⟨reason, rfl, stopped⟩ | ⟨result, written, writes, reports⟩
      · obtain ⟨advanced, refused, -⟩ := Preparation.ends_write registry flow apart stopped
        cases reason with
        | mishap mishap => cases told
        | failure failure =>
          cases told
          exact .of_unwritten makes advanced (refused _ rfl)
      · obtain ⟨-, -, both⟩ := Preparation.ends_write registry flow apart writes
        obtain ⟨ofRegistry, ofFlow⟩ := both result rfl
        obtain ⟨rfl, kept⟩ := (made.keeps_report path false result written.disk).unique reports
        rw [kept]
        exact .of_verified makes (Preparation.code_of_compiled told) ofRegistry ofFlow

section Sample

open Spec.Sample (smallPath smallFile fileOf)

def stuckDesk : Desk where
  disk.tree.entries := [([.given "t.yaml"], .file smallFile), ([.given "out"], .directory),
    ([.given "out", .given "flow.json"], .file (fileOf bareFlow.write))]
  disk.site := ⟨"/", []⟩
  disk.serial := 0
  disk.faults := ⟨[], [], [false, true, true]⟩
  log := []

theorem files_of_stuck : ∃ (after : Desk) (compilation : Compilation),
    sampleLayout.registry.IsPlain ∧ sampleLayout.flow.IsPlain ∧ sampleLayout.registry.place ≠ sampleLayout.flow.place ∧
      Work.Ends (compile sampleLayout smallPath false) stuckDesk (.ok compilation) after ∧
      LeavesInOrder sampleLayout smallPath false stuckDesk.disk after.disk compilation ∧
      ¬IsKept stuckDesk.disk.tree after.disk.tree sampleLayout.registry ∧
      compilation.failure.map Failure.kind = some .writeFailed := by
  have outcome : (StateT.run (compile sampleLayout smallPath false) stuckDesk).1.toOption.any (fun compilation =>
      (StateT.run (compile sampleLayout smallPath false) stuckDesk).2.disk.tree.held? sampleLayout.registry ≠ none ∧
        compilation.failure.map Failure.kind = some .writeFailed) := by decide +kernel
  obtain ⟨compilation, same, changed⟩ := eq_ok_of_any outcome
  obtain ⟨changed, failed⟩ := of_decide_eq_true changed
  have ended := Work.ends_of_fst same
  have plain := Layout.isPlain_ofTexts none (some ".") (some "out/oracle.json") (some "out/flow.json")
  have apart : sampleLayout.registry.place ≠ sampleLayout.flow.place := by decide
  have absent : stuckDesk.disk.tree.held? sampleLayout.registry = none := by decide +kernel
  exact ⟨_, compilation, plain.1, plain.2, apart, ended, files_of_compile plain.1 plain.2 apart ended,
    fun kept => changed (kept.trans absent), failed⟩

end Sample

end ChangeCapture.Project
