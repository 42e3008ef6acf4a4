import ChangeCapture.Proofs.Project.Rehearsal
import ChangeCapture.Proofs.Spec.Loading

namespace ChangeCapture.Project

variable {disk : Disk} {path : Path} {paths : List Path} {registryPath flowPath : Path} {layout : Layout}

def unloadable (tree : Tree) (paths : List Path) : List Violation :=
  paths.filterMap fun path => match Spec.read tree path with
    | .error (.failure failure) => some (specViolation path failure)
    | _ => none

theorem mem_unloadable {tree : Tree} {failure : Failure} (member : path ∈ paths)
    (refused : Spec.read tree path = .error (.failure failure)) : specViolation path failure ∈ unloadable tree paths := by
  apply List.mem_filterMap.mpr
  refine ⟨path, member, ?_⟩
  rw [refused]

theorem keeps_settled_load (disk : Disk) (path : Path) :
    Job.Keeps (Job.settled (Spec.load path)) disk (Spec.read disk.tree path) := Job.keeps_lift (Spec.keeps_read disk path)

theorem keeps_loadEach_of_foreseen (foreseen : ∀ path ∈ paths, Spec.Foreseen disk.tree path) :
    ∃ specs, Job.Keeps (loadEach paths) disk (specs, unloadable disk.tree paths) := by
  induction paths with
  | nil => exact ⟨[], Job.keeps_pure _⟩
  | cons path rest ih =>
    obtain ⟨specs, later⟩ := ih fun other member => foreseen other (List.mem_cons_of_mem _ member)
    have first := keeps_settled_load disk path
    unfold unloadable
    rw [List.filterMap_cons]
    rcases Spec.foreseen_iff.mp (foreseen path (List.mem_cons_self ..)) with ⟨spec, same⟩ | ⟨failure, same, -⟩
    · rw [same] at first ⊢
      exact ⟨spec :: specs, Job.keeps_bind first (Job.keeps_bind later (Job.keeps_pure _))⟩
    · rw [same] at first ⊢
      exact ⟨specs, Job.keeps_bind first (Job.keeps_bind later (Job.keeps_pure _))⟩

theorem keeps_loadEach_of_escapes (escaping : ∃ path ∈ paths, ¬Spec.Foreseen disk.tree path) :
    ∃ path ∈ paths, ∃ mishap, Spec.Escapes disk.tree path mishap ∧
      Work.Keeps (loadEach paths).run disk (.error (.mishap mishap)) := by
  induction paths with
  | nil =>
    obtain ⟨_, member, -⟩ := escaping
    cases member
  | cons path rest ih =>
    have first := keeps_settled_load disk path
    by_cases foreseen : Spec.Foreseen disk.tree path
    · obtain ⟨other, member, escapes⟩ := escaping
      have within : other ∈ rest := by
        rcases List.mem_cons.mp member with rfl | within
        · exact absurd foreseen escapes
        · exact within
      obtain ⟨one, listed, mishap, stops, stopped⟩ := ih ⟨other, within, escapes⟩
      refine ⟨one, List.mem_cons_of_mem _ listed, mishap, stops, ?_⟩
      rcases Spec.foreseen_iff.mp foreseen with ⟨spec, same⟩ | ⟨failure, same, -⟩
      · rw [same] at first
        exact Job.keeps_run_bind first (Job.keeps_stopped stopped)
      · rw [same] at first
        exact Job.keeps_run_bind first (Job.keeps_stopped stopped)
    · obtain ⟨mishap, escapes⟩ := not_forall_not.mp foreseen
      rw [Spec.read_eq_mishap_iff.mpr escapes] at first
      exact ⟨path, List.mem_cons_self .., mishap, escapes, Job.keeps_run_bind first (Job.keeps_throw disk _)⟩

theorem keeps_document_or_fault (disk : Disk) (path : Path) (invariant : Invariant) :
    (∃ json violations, Job.Keeps (document path invariant) disk (json, violations) ∧
      (json ≠ .null → HoldsJson disk.tree path json)) ∨
      ∃ fault, disk.tree.isFile path = .error fault ∧
        Work.Keeps (document path invariant).run disk (.error (.mishap (.disk fault))) := by
  have kept : Work.Keeps (document path invariant).run disk
      ((readDocument disk.tree path invariant).mapError fun fault => .mishap (.disk fault)) :=
    Job.keeps_run_bind (Job.keeps_lift (Work.keeps_tree disk)) (Job.keeps_ofExcept disk _)
  unfold readDocument at kept
  cases looked : disk.tree.isFile path with
  | error fault =>
    rw [looked] at kept
    exact .inr ⟨fault, rfl, kept⟩
  | ok isFile =>
    left
    rw [looked] at kept
    cases isFile with
    | false => exact ⟨.null, _, kept, fun present => absurd rfl present⟩
    | true =>
      obtain ⟨_, location, bytes, there⟩ := Tree.isFile_eq_ok_iff.mp looked
      have read := Tree.read_eq_ok_iff.mpr ⟨location, there⟩
      rw [read] at kept
      simp only [bind, Except.bind, if_true] at kept
      cases parsed : Content.json bytes with
      | ok json =>
        rw [parsed] at kept
        exact ⟨json, [], kept, fun _ => ⟨looked, bytes, read, parsed⟩⟩
      | error mishap =>
        rw [parsed] at kept
        exact ⟨.null, _, kept, fun present => absurd rfl present⟩

-- What stops a verification apart from the specifications' files: a document at a
-- name that is too long, or a collection for an id in the two documents.
inductive Obstacle (tree : Tree) (registryPath flowPath : Path) : Mishap → Prop
  | name {path : Path} {fault : DiskFault} : path = registryPath ∨ path = flowPath → tree.isFile path = .error fault →
    Obstacle tree registryPath flowPath (.disk fault)
  | collection {registry flow : Json} {specs : List Spec} {found : Contract.CollectionId} : HoldsJson tree registryPath registry →
    HoldsJson tree flowPath flow → registry ≠ .null → flow ≠ .null → Contract.violations specs registry flow = .error found →
    Obstacle tree registryPath flowPath (.unhashable found.kind)

theorem keeps_comparison (disk : Disk) (specs : List Spec) (registry flow : Json) (violations : List Violation) :
    (∃ more, Job.Keeps (if registry = .null ∨ flow = .null then pure violations
      else verifyDocuments specs registry flow violations) disk (violations ++ more)) ∨
    ∃ found, registry ≠ .null ∧ flow ≠ .null ∧ Contract.violations specs registry flow = .error found ∧
      Work.Keeps (if registry = .null ∨ flow = .null then pure violations
        else verifyDocuments specs registry flow violations : Job (List Violation)).run disk
          (.error (.mishap (.unhashable found.kind))) := by
  by_cases missing : registry = .null ∨ flow = .null
  · left
    rw [if_pos missing]
    exact ⟨[], by simpa using Job.keeps_pure violations⟩
  · obtain ⟨ofRegistry, ofFlow⟩ := not_or.mp missing
    rw [if_neg missing]
    unfold verifyDocuments Verifier.run
    cases compared : Contract.violations specs registry flow with
    | error found => exact .inr ⟨found, ofRegistry, ofFlow, rfl, Job.keeps_throw disk _⟩
    | ok more => exact .inl ⟨more, Job.keeps_bind (Job.keeps_lift (Work.keeps_tellAll disk _)) (Job.keeps_pure _)⟩

theorem keeps_verifyPaths_of_foreseen (foreseen : ∀ path ∈ paths, Spec.Foreseen disk.tree path) :
    (∃ more, Job.Keeps (verifyPaths paths registryPath flowPath) disk (unloadable disk.tree paths ++ more)) ∨
      ∃ mishap, Obstacle disk.tree registryPath flowPath mishap ∧
        Work.Keeps (verifyPaths paths registryPath flowPath).run disk (.error (.mishap mishap)) := by
  obtain ⟨specs, loads⟩ := keeps_loadEach_of_foreseen foreseen
  rcases keeps_document_or_fault disk registryPath .i2 with ⟨registry, ofRegistry, first, holdsRegistry⟩ | ⟨fault, looked, stopped⟩
  · rcases keeps_document_or_fault disk flowPath .i8 with ⟨flow, ofFlow, second, holdsFlow⟩ | ⟨fault, looked, stopped⟩
    · rcases keeps_comparison disk specs registry flow (unloadable disk.tree paths ++ ofRegistry ++ ofFlow) with
        ⟨more, compared⟩ | ⟨found, present, filled, refused, stopped⟩
      · left
        refine ⟨ofRegistry ++ ofFlow ++ more, ?_⟩
        rw [← List.append_assoc, ← List.append_assoc]
        exact Job.keeps_bind loads (Job.keeps_bind first (Job.keeps_bind second compared))
      · right
        refine ⟨_, .collection (holdsRegistry present) (holdsFlow filled) present filled refused, ?_⟩
        exact Job.keeps_run_bind loads (Job.keeps_run_bind first (Job.keeps_run_bind second stopped))
    · right
      refine ⟨_, .name (.inr rfl) looked, ?_⟩
      exact Job.keeps_run_bind loads (Job.keeps_run_bind first (Job.keeps_stopped stopped))
  · right
    refine ⟨_, .name (.inl rfl) looked, ?_⟩
    exact Job.keeps_run_bind loads (Job.keeps_stopped stopped)

def loaded (layout : Layout) (disk : Disk) (path : Path) : List Path := path :: (specSet layout disk path).toOption.getD []

theorem keeps_prepare_of_refused (refused : ∃ one ∈ loaded layout disk path, ∀ spec, Spec.read disk.tree one ≠ .ok spec) :
    ∃ one ∈ loaded layout disk path, ∃ reason, Spec.read disk.tree one = .error reason ∧
      Work.Keeps (prepare layout path).run disk (.error reason) := by
  have first := Spec.keeps_read disk path
  cases outcome : Spec.read disk.tree path with
  | error reason =>
    rw [outcome] at first
    exact ⟨path, List.mem_cons_self .., reason, outcome, Job.keeps_stopped first⟩
  | ok spec =>
    rw [outcome] at first
    obtain ⟨one, member, never⟩ := refused
    have within : one ∈ (specSet layout disk path).toOption.getD [] := by
      rcases List.mem_cons.mp member with rfl | within
      · exact absurd outcome (never spec)
      · exact within
    cases set : specSet layout disk path with
    | error fault =>
      rw [set] at within
      cases within
    | ok others =>
      rw [set] at within
      obtain ⟨other, listed, reason, same, stopped⟩ := Spec.keeps_loadAll_of_refused ⟨one, within, never⟩
      refine ⟨other, ?_, reason, same, ?_⟩
      · unfold loaded
        rw [set]
        exact List.mem_cons_of_mem _ listed
      · refine Job.keeps_run_bind first (Job.keeps_run_bind (Job.keeps_lift (Work.keeps_disk disk))
          (Job.keeps_run_bind (Job.keeps_ofDisk set) (Job.keeps_stopped stopped)))

theorem code_of_failureKinds {kind : FailureKind} (listed : kind ∈ Spec.failureKinds) : kind.exitStatus.code = 2 := by
  revert kind
  decide

theorem keeps_compile_of_refused (isDryRun : Bool)
    (refused : ∃ one ∈ loaded layout disk path, ∀ spec, Spec.read disk.tree one ≠ .ok spec) :
    ∃ one ∈ loaded layout disk path, ∃ reason, Spec.read disk.tree one = .error reason ∧
      Work.Keeps (compile layout path isDryRun) disk (reported path isDryRun (.error reason)) := by
  obtain ⟨one, member, reason, same, stopped⟩ := keeps_prepare_of_refused refused
  refine ⟨one, member, reason, same, keeps_compile ?_⟩
  rw [compileSpecs_eq]
  exact Job.keeps_run_bind (Job.keeps_lift (Work.keeps_tell disk _ _)) (Job.keeps_stopped stopped)

-- A specification is loaded or its file is told as missing, malformed or invalid,
-- unless the file escapes; what makes it escape is a name that is too long, a scalar that
-- its own type refuses, or a quoted value without a UTF-8 form. A verification of files that
-- do not escape tells each that cannot be loaded, and a run on one that cannot be
-- loaded ends with the status of an invalid specification.
theorem told_unless_escaping (disk : Disk) :
    (∀ path, ∃ outcome, Work.Keeps (Spec.load path).run disk outcome ∧
      (Spec.Told outcome ∨ ∃ mishap, outcome = .error (.mishap mishap)) ∧
      ∀ mishap, (outcome = .error (.mishap mishap) ↔ Spec.Escapes disk.tree path mishap) ∧
        (Spec.Escapes disk.tree path mishap → Spec.Cause disk.tree path mishap)) ∧
    (∀ paths registryPath flowPath, (∀ path ∈ paths, Spec.Foreseen disk.tree path) →
      (∃ more, Job.Keeps (verifyPaths paths registryPath flowPath) disk (unloadable disk.tree paths ++ more)) ∨
        ∃ mishap, Obstacle disk.tree registryPath flowPath mishap ∧
          Work.Keeps (verifyPaths paths registryPath flowPath).run disk (.error (.mishap mishap))) ∧
    (∀ paths registryPath flowPath, (∃ path ∈ paths, ¬Spec.Foreseen disk.tree path) →
      ∃ path ∈ paths, ∃ mishap, Spec.Escapes disk.tree path mishap ∧
        Work.Keeps (verifyPaths paths registryPath flowPath).run disk (.error (.mishap mishap))) ∧
    ∀ layout path isDryRun, (∃ one ∈ loaded layout disk path, ∀ spec, Spec.read disk.tree one ≠ .ok spec) →
      ∃ one ∈ loaded layout disk path,
        (∃ failure, Spec.read disk.tree one = .error (.failure failure) ∧
          Work.Keeps (compile layout path isDryRun) disk (.ok (.failed path isDryRun failure [])) ∧
          (Compilation.failed path isDryRun failure []).status.code = 2) ∨
        ∃ mishap, Spec.Escapes disk.tree one mishap ∧ Work.Keeps (compile layout path isDryRun) disk (.error mishap) := by
  refine ⟨?_, ?_, ?_, ?_⟩
  · intro path
    refine ⟨_, Spec.keeps_read disk path, ?_, fun mishap => ⟨Spec.read_eq_mishap_iff, Spec.Escapes.cause⟩⟩
    by_cases foreseen : Spec.Foreseen disk.tree path
    · exact .inl (Spec.foreseen_iff.mp foreseen)
    · obtain ⟨mishap, escapes⟩ := not_forall_not.mp foreseen
      exact .inr ⟨mishap, Spec.read_eq_mishap_iff.mpr escapes⟩
  · intro paths registryPath flowPath foreseen
    exact keeps_verifyPaths_of_foreseen foreseen
  · intro paths registryPath flowPath escaping
    obtain ⟨path, member, mishap, escapes, stopped⟩ := keeps_loadEach_of_escapes escaping
    exact ⟨path, member, mishap, escapes, Job.keeps_stopped stopped⟩
  · intro layout path isDryRun refused
    obtain ⟨one, member, reason, read, kept⟩ := keeps_compile_of_refused isDryRun refused
    refine ⟨one, member, ?_⟩
    cases reason with
    | failure failure => exact .inl ⟨failure, read, kept, code_of_failureKinds (Spec.isOf_read read)⟩
    | mishap mishap => exact .inr ⟨mishap, Spec.read_eq_mishap_iff.mp read, kept⟩

section Sample

open Spec.Sample (smallPath smallFile fileOf)

def isMalformed : Except Stopped Spec → Bool
  | .error (.failure failure) => failure.kind = .specMalformed
  | _ => false

def isMishap : Except Stopped Spec → Bool
  | .error (.mishap _) => true
  | _ => false

def brokenPath : Path := ⟨0, ["u.yaml"]⟩

def brokenDisk : Disk := ⟨⟨([.given "u.yaml"], .file (fileOf "[")) :: nullTree.entries⟩, ⟨"/", []⟩, 0, .none⟩

def undatedDisk : Disk := ⟨⟨[([.given "t.yaml"], .file (fileOf "2024-13-45"))]⟩, ⟨"/", []⟩, 0, .none⟩

theorem refused_broken : ∃ failure, Spec.read brokenDisk.tree brokenPath = .error (.failure failure) := by
  have malformed : isMalformed (Spec.read brokenDisk.tree brokenPath) := by decide +kernel
  cases outcome : Spec.read brokenDisk.tree brokenPath with
  | ok spec =>
    rw [outcome] at malformed
    cases malformed
  | error reason =>
    cases reason with
    | mishap mishap =>
      rw [outcome] at malformed
      cases malformed
    | failure failure => exact ⟨failure, rfl⟩

theorem escapes_undated : ∃ mishap, Spec.Escapes undatedDisk.tree smallPath mishap := by
  have stops : isMishap (Spec.read undatedDisk.tree smallPath) := by decide +kernel
  cases outcome : Spec.read undatedDisk.tree smallPath with
  | ok spec =>
    rw [outcome] at stops
    cases stops
  | error reason =>
    cases reason with
    | failure failure =>
      rw [outcome] at stops
      cases stops
    | mishap mishap => exact ⟨mishap, Spec.read_eq_mishap_iff.mp outcome⟩

theorem foreseen_broken : ∀ path ∈ [brokenPath, smallPath], Spec.Foreseen brokenDisk.tree path := by
  obtain ⟨failure, refused⟩ := refused_broken
  have broken : Spec.Foreseen brokenDisk.tree brokenPath :=
    Spec.foreseen_iff.mpr (.inr ⟨failure, refused, Spec.isOf_read refused⟩)
  have read : Spec.read brokenDisk.tree smallPath = .ok Spec.Sample.small :=
    Spec.read_eq_ok_iff.mpr ⟨by decide +kernel, _, rfl, Spec.Sample.ofBytes_small⟩
  have small : Spec.Foreseen brokenDisk.tree smallPath := Spec.foreseen_iff.mpr (.inl ⟨_, read⟩)
  simpa using ⟨broken, small⟩

theorem loaded_broken : loaded sampleLayout brokenDisk brokenPath = [brokenPath, smallPath] := by decide +kernel

theorem told_of_samples :
    (∀ path ∈ [brokenPath, smallPath], Spec.Foreseen brokenDisk.tree path) ∧
    (∃ failure found, specViolation brokenPath failure ∈ found ∧
      Job.Keeps (verifyPaths [brokenPath, smallPath] ⟨0, ["oracle.json"]⟩ ⟨0, ["flow.json"]⟩) brokenDisk found) ∧
    (∃ one ∈ [brokenPath, smallPath], ∃ failure, Spec.read brokenDisk.tree one = .error (.failure failure) ∧
      Work.Keeps (compile sampleLayout brokenPath false) brokenDisk (.ok (.failed brokenPath false failure [])) ∧
      (Compilation.failed brokenPath false failure []).status.code = 2) ∧
    (∃ path ∈ [smallPath], ¬Spec.Foreseen undatedDisk.tree path) ∧
    ∃ mishap, Spec.Cause undatedDisk.tree smallPath mishap ∧
      Work.Keeps (verifyPaths [smallPath] ⟨0, ["oracle.json"]⟩ ⟨0, ["flow.json"]⟩).run undatedDisk (.error (.mishap mishap)) := by
  obtain ⟨failure, refused⟩ := refused_broken
  obtain ⟨-, verifies, -, compiles⟩ := told_unless_escaping brokenDisk
  obtain ⟨loads, -, stops, -⟩ := told_unless_escaping undatedDisk
  obtain ⟨_, escapes⟩ := escapes_undated
  have escaping : ∃ path ∈ [smallPath], ¬Spec.Foreseen undatedDisk.tree path :=
    ⟨smallPath, List.mem_singleton_self _, fun foreseen => foreseen _ escapes⟩
  refine ⟨foreseen_broken, ?_, ?_, escaping, ?_⟩
  · rcases verifies _ ⟨0, ["oracle.json"]⟩ ⟨0, ["flow.json"]⟩ foreseen_broken with ⟨more, kept⟩ | ⟨mishap, obstacle, -⟩
    · have listed : specViolation brokenPath failure ∈ unloadable brokenDisk.tree [brokenPath, smallPath] :=
        mem_unloadable (List.mem_cons_self ..) refused
      exact ⟨failure, _, List.mem_append_left more listed, kept⟩
    · cases obstacle with
      | name place looked =>
        rcases place with rfl | rfl
        · cases looked
        · cases looked
      | collection _ holds _ present _ =>
        have null : HoldsJson brokenDisk.tree ⟨0, ["flow.json"]⟩ .null := ⟨by decide +kernel, _, rfl, by decide +kernel⟩
        exact absurd (holds.unique null) present
  · have cannot : ∃ one ∈ loaded sampleLayout brokenDisk brokenPath, ∀ spec, Spec.read brokenDisk.tree one ≠ .ok spec :=
      ⟨brokenPath, List.mem_cons_self .., fun spec read => by cases refused.symm.trans read⟩
    obtain ⟨one, member, told | ⟨mishap, escapes, -⟩⟩ := compiles sampleLayout brokenPath false cannot
    · rw [loaded_broken] at member
      exact ⟨one, member, told⟩
    · rw [loaded_broken] at member
      exact absurd escapes (foreseen_broken one member mishap)
  · obtain ⟨path, member, mishap, escapes, stopped⟩ := stops [smallPath] ⟨0, ["oracle.json"]⟩ ⟨0, ["flow.json"]⟩ escaping
    obtain rfl := List.mem_singleton.mp member
    obtain ⟨_, _, _, exactly⟩ := loads smallPath
    exact ⟨mishap, (exactly mishap).2 escapes, stopped⟩

-- A date that is in no calendar stops the loading, and is no failure of its file.
theorem untold_undated : ¬∀ tree path, Spec.Told (Spec.read tree path) := by
  intro claimed
  obtain ⟨mishap, escapes⟩ := escapes_undated
  exact Spec.foreseen_iff.mpr (claimed undatedDisk.tree smallPath) mishap escapes

end Sample

end ChangeCapture.Project
