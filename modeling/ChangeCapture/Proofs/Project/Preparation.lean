import ChangeCapture.Proofs.Project.Steps

namespace ChangeCapture.Project

variable {layout : Layout} {path : Path} {before after : Desk} {disk : Disk}

structure Preparation where
  paths : List Path
  specs : List Spec
  table : Text
  registry : Registry
  projected : Projected
  repairs : List Repair

-- The first part of a run, which only reads.
def prepare (layout : Layout) (path : Path) : Job Preparation := do
  let spec ← Spec.load path
  let others ← Job.ofDisk (specSet layout (← Work.disk) path)
  let specs := spec :: (← Spec.loadAll others)
  let registry ← buildRegistry specs
  let flow ← readFlow layout.flow
  let (projected, repairs) ← projectFlow registry specs spec.tableName flow
  return ⟨path :: others, specs, spec.tableName, registry, projected, repairs⟩

namespace Preparation

def registryText (made : Preparation) : Text := made.registry.toJson.write

def flowText (made : Preparation) : Text := made.projected.flow.write

def artifacts (made : Preparation) (layout : Layout) : Artifacts :=
  .ofPairs [(layout.registry, made.registryText), (layout.flow, made.flowText)]

def write (made : Preparation) (layout : Layout) : Job (List Path × List Violation) := do
  let written ← Job.ofWork (Artifacts.write (made.artifacts layout))
  let violations ← verifyPaths made.paths layout.registry layout.flow
  return (written, violations)

def rehearse (made : Preparation) (layout : Layout) : Job (List Path × List Violation) := do
  let violations ← verifyUnwritten made.specs (made.artifacts layout) layout
  return ([], violations)

def carryOut (made : Preparation) (layout : Layout) (isDryRun : Bool) : Job (List Path × List Violation) :=
  if isDryRun then made.rehearse layout else made.write layout

def compiled (made : Preparation) (path : Path) (isDryRun : Bool) (written : List Path) : List Violation → Compiled
  | first :: rest => .broken (brokenContract first (first :: rest).length) (first :: rest)
  | [] => .clean ⟨.ok, path, made.registry, some made.projected.sqlId, made.repairs, [], written, none, isDryRun⟩

def report (made : Preparation) (path : Path) (isDryRun : Bool) (result : List Path × List Violation) : Job Compiled := do
  if result.2.isEmpty then
    Work.tell .info ("Compiled " ++ made.table ++ ": " ++ Text.ofNat made.registry.length ++ " registry entries, " ++
      Text.ofNat made.repairs.length ++ " flow change(s), bound to " ++ made.projected.sqlId)
  return made.compiled path isDryRun result.1 result.2

theorem keeps_report (made : Preparation) (path : Path) (isDryRun : Bool) (result : List Path × List Violation) (disk : Disk) :
    Job.Keeps (made.report path isDryRun result) disk (made.compiled path isDryRun result.1 result.2) := by
  rcases result with ⟨written, violations⟩
  cases violations with
  | nil => exact Job.keeps_told _ _ _ _
  | cons first rest => exact Job.keeps_pure _

end Preparation

-- A run is its parts, one after the other.
theorem compileSpecs_eq (layout : Layout) (path : Path) (isDryRun : Bool) : compileSpecs layout path isDryRun = (do
    Work.tell .info ("Compiling " ++ path.toText ++ (if isDryRun then " (dry run)" else "" : String))
    let made ← prepare layout path
    let result ← made.carryOut layout isDryRun
    made.report path isDryRun result) := by
  simp only [compileSpecs, prepare, bind_assoc, pure_bind]
  refine bind_congr fun _ => bind_congr fun spec => bind_congr fun disk => bind_congr fun others => bind_congr fun rest =>
    bind_congr fun registry => bind_congr fun flow => bind_congr fun projects => ?_
  cases isDryRun with
  | false =>
    simp only [Preparation.carryOut, Preparation.write, Bool.false_eq_true, if_false, bind_assoc, pure_bind]
    refine bind_congr fun written => bind_congr fun violations => ?_
    cases violations <;> rfl
  | true =>
    simp only [Preparation.carryOut, Preparation.rehearse, if_true, bind_assoc, pure_bind]
    refine bind_congr fun violations => ?_
    cases violations <;> rfl

def preparationKinds : List FailureKind :=
  [.specNotFound, .specMalformed, .specInvalid, .templateRender, .registryConflict, .flowDrift]

theorem reads_prepare (layout : Layout) (path : Path) : Job.Reads (prepare layout path) := by
  refine Job.reads_bind (Spec.reads_load path) fun spec => Job.reads_bind Job.reads_disk fun disk =>
    Job.reads_bind (Job.reads_ofDisk _) fun others => Job.reads_bind (Spec.reads_loadAll others) fun rest =>
      Job.reads_bind (reads_buildRegistry _) fun registry => Job.reads_bind (reads_readFlow _) fun flow => ?_
  exact Job.reads_bind (reads_projectFlow _ _ _ _) fun _ => Job.reads_pure _

theorem stopsBy_prepare (layout : Layout) (path : Path) : Job.StopsBy preparationKinds (prepare layout path) := by
  have ofSpecs : Spec.failureKinds ⊆ preparationKinds := by decide
  have ofRegistry : [FailureKind.templateRender, .registryConflict] ⊆ preparationKinds := by decide
  have ofFlow : [FailureKind.flowDrift] ⊆ preparationKinds := by decide
  refine Job.stopsBy_bind ((Spec.stopsBy_load path).mono ofSpecs) fun spec => Job.stopsBy_bind (Job.stopsBy_lift _) fun disk =>
    Job.stopsBy_bind (Job.stopsBy_ofDisk _) fun others =>
      Job.stopsBy_bind ((Spec.stopsBy_loadAll others).mono ofSpecs) fun rest =>
        Job.stopsBy_bind ((stopsBy_buildRegistry _).mono ofRegistry) fun registry =>
          Job.stopsBy_bind ((stopsBy_readFlow _).mono ofFlow) fun flow => ?_
  exact Job.stopsBy_bind ((stopsBy_projectFlow _ _ _ _).mono ofFlow) fun _ => Job.stopsBy_pure _

structure Prepares (layout : Layout) (disk : Disk) (path : Path) (made : Preparation) : Prop where
  paths : ∃ others, specSet layout disk path = .ok others ∧ made.paths = path :: others
  loads : Loads disk.tree made.paths made.specs
  built : Registry.build made.specs = .ok made.registry
  filled : made.registry ≠ []
  projects : ∃ flow, (flow = .null ∨ HoldsJson disk.tree layout.flow flow) ∧
    ∃ target, (Projection.project made.registry made.specs target flow).outcome = .ok made.projected

theorem ends_prepare {made : Preparation} (ended : Job.Ends (prepare layout path) before made after) :
    Prepares layout before.disk path made ∧ after.disk = before.disk := by
  simp only [prepare, Job.ends_bind_iff, Job.ends_lift_iff, Work.ends_disk_iff, Job.ends_ofDisk_iff, Job.ends_pure_iff] at ended
  obtain ⟨spec, loaded, first, _, _, ⟨rfl, rfl⟩, others, _, ⟨set, rfl⟩, rest, read, second, registry, joined, third,
    flow, found, fourth, ⟨projected, repairs⟩, changed, fifth, rfl, rfl⟩ := ended
  obtain ⟨readFirst, told⟩ := ends_load_iff.mp first
  have sameLoaded : loaded.disk = before.disk := by rw [← told]
  obtain ⟨loadsRest, sameRead⟩ := ends_loadAll second
  obtain ⟨built, sameJoined⟩ := ends_buildRegistry third
  obtain ⟨holds, sameFound⟩ := ends_readFlow fourth
  obtain ⟨filled, projects, sameChanged⟩ := ends_projectFlow fifth
  rw [sameLoaded] at set loadsRest sameRead
  rw [sameRead] at sameJoined
  rw [sameJoined] at holds sameFound
  rw [sameFound] at sameChanged
  exact ⟨⟨⟨others, set, rfl⟩, .cons readFirst loadsRest, built, filled, ⟨flow, holds, projects⟩⟩, sameChanged⟩

end ChangeCapture.Project
