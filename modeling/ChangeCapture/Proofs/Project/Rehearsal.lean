import ChangeCapture.Proofs.Project.Compilation

namespace ChangeCapture

variable {path : Path} {paths : List Path} {specs : List Spec} {disk : Disk}

namespace Job

variable {α β γ : Type} {change : α → β}

-- A job and its rehearsal on one disk: whatever the job comes to, unless it is
-- refused, the rehearsal comes to the same but for a change, and changes nothing.
def Foretells (disk : Disk) (change : α → β) (rehearsal : Job β) (job : Job α) : Prop :=
  ∀ log outcome after, Work.Ends job.run ⟨disk, log⟩ outcome after →
    (∃ reason, outcome = .error reason ∧ Artifacts.IsRefusal reason) ∨ Work.Keeps rehearsal.run disk (outcome.map change)

theorem Foretells.bind {first : Job γ} {next : γ → Job α} {rehearsed : γ → Job β} (reads : Reads first)
    (later : ∀ value log after, Ends first ⟨disk, log⟩ value after → Foretells disk change (rehearsed value) (next value)) :
    Foretells disk change (first >>= rehearsed) (first >>= next) := by
  intro log outcome after ended
  obtain ⟨result, kept⟩ := reads disk
  obtain ⟨told, ran⟩ := kept log
  rcases ends_run_bind ended with ⟨reason, rfl, stopped⟩ | ⟨value, middle, began, went⟩
  · obtain ⟨rfl, -⟩ := Work.ends_unique ran stopped
    exact .inr (keeps_stopped kept)
  · obtain ⟨rfl, rfl⟩ := Work.ends_unique ran began
    exact (later value log _ began told outcome after went).imp_right (keeps_run_bind kept)

theorem Foretells.tell {severity : Severity} {message other : Text} {next : Job α} {rehearsed : Job β}
    (later : Foretells disk change rehearsed next) :
    Foretells disk change (liftM (Work.tell severity other) >>= fun _ => rehearsed)
      (liftM (Work.tell severity message) >>= fun _ => next) := by
  intro log outcome after ended
  rcases ends_run_bind ended with ⟨reason, -, stopped⟩ | ⟨_, middle, told, went⟩
  · cases congrArg Prod.fst stopped
  · obtain rfl := Work.ends_tell_iff.mp (ends_lift_iff.mp told)
    exact (later _ outcome after went).imp_right (keeps_run_bind (keeps_lift (Work.keeps_tell disk severity other)))

-- What follows a step that writes runs on another disk than what follows its rehearsal.
theorem Foretells.follow {δ : Type} {shift : γ → δ} {first : Job γ} {other : Job δ} {next : γ → Job α} {rehearsed : δ → Job β}
    (begins : Foretells disk shift other first)
    (later : ∀ value before outcome after, Work.Ends (next value).run before outcome after →
      Work.Keeps (rehearsed (shift value)).run disk (outcome.map change)) :
    Foretells disk change (other >>= rehearsed) (first >>= next) := by
  intro log outcome after ended
  rcases ends_run_bind ended with ⟨reason, rfl, stopped⟩ | ⟨value, middle, began, went⟩
  · rcases begins log _ after stopped with ⟨_, same, refused⟩ | kept
    · cases same
      exact .inl ⟨reason, rfl, refused⟩
    · exact .inr (keeps_stopped kept)
  · rcases begins log _ middle began with ⟨_, same, -⟩ | kept
    · cases same
    · exact .inr (keeps_run_bind kept (later value middle outcome after went))

end Job

def Compilation.rehearsal (compilation : Compilation) : Compilation := { compilation with written := [], isDryRun := true }

namespace Project

def Compiled.rehearsal : Compiled → Compiled
  | .clean compilation => .clean compilation.rehearsal
  | .broken failure violations => .broken failure violations

-- A project whose registry, flow and specifications are all different files.
structure Separate (layout : Layout) (tree : Tree) (path : Path) : Prop where
  registry : layout.registry.IsPlain
  flow : layout.flow.IsPlain
  apart : layout.registry.place ≠ layout.flow.place
  outside : ∀ paths, layout.specPaths tree = .ok paths →
    ∀ one ∈ path :: paths, one.place ∉ [layout.registry.place, layout.flow.place]

variable {layout : Layout} {registry : Registry} {others : List Path} {spec : Spec} {flow : Json}

theorem Separate.outside_specSet (separate : Separate layout disk.tree path) (set : specSet layout disk path = .ok others) :
    ∀ one ∈ path :: others, one.place ∉ [layout.registry.place, layout.flow.place] := by
  obtain ⟨paths, listed, rfl⟩ := map_eq_ok_iff.mp set
  intro one member
  refine separate.outside paths listed one ?_
  rcases List.mem_cons.mp member with rfl | member
  · exact List.mem_cons_self ..
  · exact List.mem_cons_of_mem _ (List.mem_filter.mp member).1

theorem ne_null_of_isObject {document : Json} (isObject : document.isObject) : document.returned ≠ .null := by
  cases document with
  | object fields =>
    rw [Json.returned_object]
    exact Json.noConfusion
  | null | bool | int | double | text | list => cases isObject

theorem readable_of_prepares {made : Preparation} (prepares : Prepares layout disk path made) :
    made.projected.flow.Readable ∧ made.projected.flow.isObject := by
  obtain ⟨flow, holds, target, projects⟩ := prepares.projects
  have given : flow.Readable := by
    rcases holds with rfl | ⟨-, bytes, -, parsed⟩
    · rfl
    · exact Content.readable_of_json parsed
  refine ⟨Projection.kept_of_project Json.inherited_readable prepares.filled given projects, ?_⟩
  obtain ⟨contents, there, -⟩ := Contract.settled_of_project prepares.built prepares.filled projects
  obtain ⟨fields, same, -⟩ := Json.field?_eq_some_iff.mp there
  rw [same]
  rfl

theorem foretells_write {made : Preparation} (separate : Separate layout disk.tree path)
    (prepares : Prepares layout disk path made) :
    Job.Foretells disk (fun result => (([] : List Path), result.2)) (made.rehearse layout) (made.write layout) := by
  intro log outcome after ended
  obtain ⟨others, set, paths⟩ := prepares.paths
  have outside := separate.outside_specSet set
  rw [← paths] at outside
  obtain ⟨readable, isObject⟩ := readable_of_prepares prepares
  have storable := Registry.storable_toJson prepares.built
  have present : made.registry.toJson.returned ≠ .null ∧ made.projected.flow.returned ≠ .null :=
    ⟨ne_null_of_isObject rfl, ne_null_of_isObject isObject⟩
  have listed := artifacts_of_apart separate.apart made.registryText made.flowText
  have plain : ∀ artifact ∈ [(layout.registry, made.registryText), (layout.flow, made.flowText)], artifact.1.IsPlain := by
    simpa using ⟨separate.registry, separate.flow⟩
  rcases Job.ends_run_bind ended with ⟨reason, rfl, stopped⟩ | ⟨written, middle, writes, ended⟩
  · rw [Preparation.artifacts, listed] at stopped
    exact .inl ⟨reason, rfl, Artifacts.isRefusal_of_write plain stopped⟩
  · right
    rw [Preparation.artifacts, listed] at writes
    obtain ⟨within, current⟩ := Artifacts.ends_write plain (by simpa using separate.apart) writes
    have holdsRegistry := holds_returned storable.readable (current (layout.registry, made.registryText) (by simp))
    have holdsFlow := holds_returned readable (current (layout.flow, made.flowText) (by simp))
    have verifies := keeps_verification (prepares.loads.of_within within outside) holdsRegistry holdsFlow present
    have rehearsed : Work.Keeps (verifyUnwritten made.specs (made.artifacts layout) layout).run disk
        (verification made.specs made.registry.toJson.returned made.projected.flow.returned) := by
      have differ : (layout.flow == layout.registry) = false := by
        simpa using fun same => separate.apart (congrArg Path.place same.symm)
      rw [Preparation.artifacts, listed]
      refine keeps_verifyUnwritten (keeps_reread List.lookup_cons_self (Json.read_write storable.readable))
        (keeps_reread ?_ (Json.read_write readable))
      rw [List.lookup_cons, differ]
      exact List.lookup_cons_self
    have told := Job.keeps_map (fun violations => (([] : List Path), violations)) rehearsed
    obtain ⟨rfl, -⟩ := (Job.keeps_map (fun violations => (written, violations)) verifies).unique ended
    generalize verification made.specs made.registry.toJson.returned made.projected.flow.returned = found at told ⊢
    cases found <;> exact told

theorem foretells_compileSpecs (separate : Separate layout disk.tree path) :
    Job.Foretells disk Compiled.rehearsal (compileSpecs layout path true) (compileSpecs layout path false) := by
  rw [compileSpecs_eq, compileSpecs_eq]
  refine Job.Foretells.tell (Job.Foretells.bind (reads_prepare layout path) fun made _ _ makes => ?_)
  obtain ⟨prepares, -⟩ := ends_prepare makes
  refine Job.Foretells.follow (foretells_write separate prepares) fun result before outcome after ended => ?_
  obtain ⟨rfl, -⟩ := (made.keeps_report path false result before.disk).unique ended
  have told := made.keeps_report path true ([], result.2) disk
  rcases result with ⟨written, violations⟩
  cases violations <;> exact told

variable {before after : Desk} {compilation : Compilation}

def reported (path : Path) (isDryRun : Bool) : Except Stopped Compiled → Except Mishap Compilation
  | .ok (.clean compilation) => .ok compilation
  | .ok (.broken failure violations) => .ok (.failed path isDryRun failure violations)
  | .error (.failure failure) => .ok (.failed path isDryRun failure [])
  | .error (.mishap mishap) => .error mishap

theorem keeps_compile {isDryRun : Bool} {outcome : Except Stopped Compiled}
    (kept : Work.Keeps (compileSpecs layout path isDryRun).run disk outcome) :
    Work.Keeps (compile layout path isDryRun) disk (reported path isDryRun outcome) := by
  refine Work.keeps_bind kept ?_
  unfold reported
  split
  · exact Work.keeps_pure _
  · exact Work.keeps_bind (Work.keeps_tell _ _ _) (Work.keeps_pure _)
  · exact Work.keeps_bind (Work.keeps_tell _ _ _) (Work.keeps_pure _)
  · exact Work.keeps_pure _

theorem reported_of_compile {isDryRun : Bool} {result : Except Mishap Compilation}
    (ended : Work.Ends (compile layout path isDryRun) before result after) : ∃ outcome middle,
      Work.Ends (compileSpecs layout path isDryRun).run before outcome middle ∧ reported path isDryRun outcome = result ∧
        after.disk = middle.disk := by
  obtain ⟨outcome, middle, first, rest⟩ := Work.ends_bind_iff.mp ended
  refine ⟨outcome, middle, first, ?_⟩
  split at rest
  · obtain ⟨same, rfl⟩ := Work.ends_pure_iff.mp rest
    exact ⟨same, rfl⟩
  · obtain ⟨_, _, told, rest⟩ := Work.ends_bind_iff.mp rest
    obtain ⟨same, rfl⟩ := Work.ends_pure_iff.mp rest
    rw [← Work.ends_tell_iff.mp told]
    exact ⟨same, rfl⟩
  · obtain ⟨_, _, told, rest⟩ := Work.ends_bind_iff.mp rest
    obtain ⟨same, rfl⟩ := Work.ends_pure_iff.mp rest
    rw [← Work.ends_tell_iff.mp told]
    exact ⟨same, rfl⟩
  · obtain ⟨same, rfl⟩ := Work.ends_pure_iff.mp rest
    exact ⟨same, rfl⟩

-- A dry run tells what the run would come to, whether it is in order or fails, unless
-- the run fails to write its files; and it changes nothing.
theorem rehearsed_of_compile (separate : Separate layout before.disk.tree path)
    (ended : Work.Ends (compile layout path false) before (.ok compilation) after)
    (written : ∀ failure, compilation.failure = some failure → failure.kind ≠ .writeFailed) :
    ∃ done, Work.Ends (compile layout path true) before (.ok { compilation with written := [], isDryRun := true }) done ∧
      done.disk = before.disk := by
  obtain ⟨outcome, middle, ran, told, -⟩ := reported_of_compile ended
  rcases foretells_compileSpecs separate before.log outcome middle ran with ⟨reason, rfl, refused⟩ | kept
  · cases reason with
    | mishap mishap => cases told
    | failure failure =>
      cases told
      exact absurd refused (written failure rfl)
  · have same : reported path true (outcome.map Compiled.rehearsal) = .ok { compilation with written := [], isDryRun := true } := by
      cases outcome with
      | error reason =>
        cases reason with
        | failure failure =>
          cases told
          rfl
        | mishap mishap => cases told
      | ok compiled =>
        cases compiled with
        | clean clean =>
          cases told
          rfl
        | broken failure violations =>
          cases told
          rfl
    obtain ⟨log, rehearsed⟩ := keeps_compile kept before.log
    rw [same] at rehearsed
    exact ⟨⟨before.disk, log⟩, rehearsed, rfl⟩

section Sample

open Spec.Sample (smallPath)

theorem rehearsed_of_sample : ∃ (after : Desk) (compilation : Compilation),
    Separate sampleLayout sampleDesk.disk.tree smallPath ∧
      Work.Ends (compile sampleLayout smallPath false) sampleDesk (.ok compilation) after ∧
      (∀ failure, compilation.failure = some failure → failure.kind ≠ .writeFailed) ∧
      ∃ done, Work.Ends (compile sampleLayout smallPath true) sampleDesk
        (.ok { compilation with written := [], isDryRun := true }) done ∧ done.disk = sampleDesk.disk := by
  have registryText := Spec.Sample.encode_fileOf sampleRegistry.toJson.write (by decide +kernel)
  have flowText := Spec.Sample.encode_fileOf sampleFlow.write (by decide +kernel)
  obtain ⟨fields, contents, key, finished⟩ := finished_sample registryText flowText
  have kept : Work.Keeps (compile sampleLayout smallPath false) sampleDesk.disk _ :=
    finished.keeps_compile (List.mem_singleton_self smallPath)
  obtain ⟨log, ended⟩ := kept []
  have separate : Separate sampleLayout sampleDesk.disk.tree smallPath := {
    registry := (Layout.isPlain_ofTexts _ _ _ _).1
    flow := (Layout.isPlain_ofTexts _ _ _ _).2
    apart := by decide
    outside := by
      intro paths listed
      cases finished.listed.symm.trans listed
      decide }
  have inOrder : ∀ failure : Failure, none = some failure → failure.kind ≠ .writeFailed := fun _ none => by cases none
  exact ⟨⟨sampleDesk.disk, log⟩, _, separate, ended, inOrder, rehearsed_of_compile separate ended inOrder⟩

end Sample

end Project

end ChangeCapture
