import ChangeCapture.Project.Compilation
import ChangeCapture.Proofs.Artifact.Writing
import ChangeCapture.Proofs.Flow.Canonical
import ChangeCapture.Proofs.Project.Verification

namespace ChangeCapture

variable {tree : Tree} {path : Path} {paths : List Path} {spec : Spec} {specs : List Spec} {before after : Desk} {disk : Disk}
  {document : Json} {registry : Registry}

theorem Loads.of_perm {other : List Path} (loads : Loads tree paths specs) (perm : other.Perm paths) :
    ∃ others, Loads tree other others ∧ others.Perm specs := by
  obtain ⟨others, ofOthers, same⟩ := List.perm_comp_forall₂ perm loads
  exact ⟨others, ofOthers, same⟩

theorem Loads.unique {other : List Spec} (one : Loads tree paths specs) (two : Loads tree paths other) : specs = other := by
  induction one generalizing other with
  | nil =>
    cases two
    rfl
  | cons read _ ih =>
    cases two with
    | cons again rest =>
      cases read.symm.trans again
      rw [ih rest]

theorem Spec.accepted_of_read (read : Spec.read tree path = .ok spec) : spec.Accepted := by
  obtain ⟨-, bytes, -, parsed⟩ := Spec.read_eq_ok_iff.mp read
  unfold Spec.ofBytes at parsed
  split at parsed
  · cases parsed
  · split at parsed
    · cases parsed
    · cases parsed
    · rename_i document _
      obtain ⟨found, made, named⟩ := bind_eq_ok_iff.mp (mapError_eq_ok_iff.mp parsed)
      unfold Spec.checkName at named
      split at named
      · cases named
        exact ⟨document, made⟩
      · cases named

theorem Loads.valid (loads : Loads tree paths specs) : ∀ spec ∈ specs, spec.Valid := by
  induction loads with
  | nil => simp
  | cons read _ ih =>
    intro one member
    rcases List.mem_cons.mp member with rfl | member
    · exact (Spec.accepted_of_read read).valid
    · exact ih one member

theorem ends_loadAll (ended : Job.Ends (Spec.loadAll paths) before specs after) :
    Loads before.disk.tree paths specs ∧ after.disk = before.disk := by
  induction paths generalizing before specs with
  | nil =>
    obtain ⟨rfl, rfl⟩ := Job.ends_pure_iff.mp ended
    exact ⟨.nil, rfl⟩
  | cons path rest ih =>
    simp only [Spec.loadAll, Job.ends_bind_iff, Job.ends_pure_iff] at ended
    obtain ⟨spec, middle, first, later, last, second, rfl, rfl⟩ := ended
    obtain ⟨read, rfl⟩ := ends_load_iff.mp first
    obtain ⟨loads, same⟩ := ih second
    exact ⟨.cons read loads, same⟩

theorem keeps_load (read : Spec.read disk.tree path = .ok spec) : Job.Keeps (Spec.load path) disk spec :=
  fun _ => ⟨_, ends_load_iff.mpr ⟨read, rfl⟩⟩

theorem keeps_loadAll (loads : Loads disk.tree paths specs) : Job.Keeps (Spec.loadAll paths) disk specs := by
  induction loads with
  | nil => exact Job.keeps_pure _
  | cons read _ ih => exact Job.keeps_bind (keeps_load read) (Job.keeps_bind ih (Job.keeps_pure _))

theorem Spec.reads_loadAll (paths : List Path) : Job.Reads (Spec.loadAll paths) := by
  induction paths with
  | nil => exact Job.reads_pure _
  | cons path rest ih =>
    exact Job.reads_bind (Spec.reads_load path) fun _ => Job.reads_bind ih fun _ => Job.reads_pure _

theorem SpecFault.isOf_stopped (path : Option Text) (fault : SpecFault) :
    (fault.stopped path).IsOf [.specMalformed, .specInvalid] := by
  cases fault with
  | noMapping kind => exact List.mem_cons_self ..
  | invalid first count => exact List.mem_cons_of_mem _ (List.mem_cons_self ..)
  | fileName name table => exact List.mem_cons_of_mem _ (List.mem_cons_self ..)
  | unwritable error => trivial

theorem RegistryFault.isOf_stopped (fault : RegistryFault) : fault.stopped.IsOf [.templateRender, .registryConflict] := by
  cases fault with
  | query table fault =>
    unfold RegistryFault.stopped QueryFault.stopped
    dsimp only
    split
    · exact List.mem_cons_self ..
    · trivial
  | conflict key table => exact List.mem_cons_of_mem _ (List.mem_cons_self ..)

theorem ProjectionStop.isOf_stopped (stop : ProjectionStop) : stop.stopped.IsOf [.flowDrift] := by
  cases stop with
  | drift cause => exact List.mem_cons_self ..
  | collectionId kind => trivial
  | window fault => trivial

def Spec.failureKinds : List FailureKind := [.specNotFound, .specMalformed, .specInvalid]

theorem Spec.isOf_ofBytes {bytes : Bytes} {reason : Stopped} (refused : Spec.ofBytes path bytes = .error reason) :
    reason.IsOf Spec.failureKinds := by
  unfold Spec.ofBytes at refused
  split at refused
  · cases refused
    exact List.mem_cons_of_mem _ (List.mem_cons_self ..)
  · split at refused
    · cases refused
      exact List.mem_cons_of_mem _ (List.mem_cons_self ..)
    · cases refused
      trivial
    · generalize (Spec.ofDocument _ >>= Spec.checkName path) = checked at refused
      cases checked with
      | ok spec => cases refused
      | error fault =>
        cases refused
        exact (SpecFault.isOf_stopped _ fault).mono (List.subset_cons_self _ _)

theorem Spec.isOf_read {reason : Stopped} (refused : Spec.read tree path = .error reason) : reason.IsOf Spec.failureKinds := by
  unfold Spec.read at refused
  cases looked : tree.isFile path with
  | error fault =>
    rw [looked] at refused
    cases refused
    trivial
  | ok isFile =>
    rw [looked] at refused
    cases isFile with
    | false =>
      cases refused
      exact List.mem_cons_self ..
    | true =>
      cases content : tree.read path with
      | error fault =>
        rw [content] at refused
        cases refused
        trivial
      | ok bytes =>
        rw [content] at refused
        exact Spec.isOf_ofBytes refused

theorem Spec.stopsBy_load (path : Path) : Job.StopsBy Spec.failureKinds (Spec.load path) :=
  Job.stopsBy_bind (Job.stopsBy_lift _) fun _ => Job.stopsBy_bind (Job.stopsBy_ofExcept fun _ => Spec.isOf_read) fun _ =>
    Job.stopsBy_bind (Job.stopsBy_lift _) fun _ => Job.stopsBy_pure _

theorem Spec.stopsBy_loadAll (paths : List Path) : Job.StopsBy Spec.failureKinds (Spec.loadAll paths) := by
  induction paths with
  | nil => exact Job.stopsBy_pure _
  | cons path rest ih =>
    exact Job.stopsBy_bind (Spec.stopsBy_load path) fun _ => Job.stopsBy_bind ih fun _ => Job.stopsBy_pure _

namespace Project

theorem ends_buildRegistry (ended : Job.Ends (buildRegistry specs) before registry after) :
    Registry.build specs = .ok registry ∧ after.disk = before.disk := by
  simp only [buildRegistry, Job.ends_bind_iff, Job.ends_lift_iff, Work.ends_tellAll_iff] at ended
  obtain ⟨_, middle, rfl, rest⟩ := ended
  split at rest
  · rename_i built
    obtain ⟨rfl, rfl⟩ := Job.ends_pure_iff.mp rest
    exact ⟨built, rfl⟩
  · obtain ⟨same, -⟩ := Job.ends_ofExcept_iff.mp rest
    cases same

theorem keeps_buildRegistry (built : Registry.build specs = .ok registry) : Job.Keeps (buildRegistry specs) disk registry := by
  unfold buildRegistry
  rw [built]
  exact Job.keeps_bind (Job.keeps_lift (Work.keeps_tellAll _ _)) (Job.keeps_pure _)

-- The flow that a run starts from is the one that its file holds, or null for none.
theorem ends_readFlow {flow : Json} (ended : Job.Ends (readFlow path) before flow after) :
    (flow = .null ∨ HoldsJson before.disk.tree path flow) ∧ after.disk = before.disk := by
  simp only [readFlow, Job.ends_bind_iff, Job.ends_lift_iff, Work.ends_tree_iff, Job.ends_ofDisk_iff] at ended
  obtain ⟨_, _, ⟨rfl, rfl⟩, has, _, ⟨looked, rfl⟩, rest⟩ := ended
  split at rest
  · rename_i there
    simp only [Job.ends_bind_iff, Job.ends_ofDisk_iff] at rest
    obtain ⟨bytes, _, ⟨read, rfl⟩, rest⟩ := rest
    split at rest
    · rename_i parsed
      obtain ⟨rfl, rfl⟩ := Job.ends_pure_iff.mp rest
      obtain ⟨item, found, present⟩ := map_eq_ok_iff.mp looked
      obtain ⟨one, rfl⟩ := Option.isSome_iff_exists.mp (present.trans there)
      obtain ⟨checked, -⟩ := Tree.look_eq_ok_iff.mp found
      obtain ⟨location, file⟩ := Tree.read_eq_ok_iff.mp read
      exact ⟨.inr ⟨Tree.isFile_eq_ok_iff.mpr ⟨checked, location, bytes, file⟩, bytes, read, parsed⟩, rfl⟩
    · exact absurd rest Job.not_ends_fail
  · simp only [Job.ends_bind_iff, Job.ends_lift_iff, Work.ends_tell_iff, Job.ends_pure_iff] at rest
    obtain ⟨_, _, rfl, rfl, rfl⟩ := rest
    exact ⟨.inl rfl, rfl⟩

theorem keeps_readFlow {flow : Json} (holds : HoldsJson disk.tree path flow) : Job.Keeps (readFlow path) disk flow := by
  obtain ⟨isFile, bytes, read, parsed⟩ := holds
  have has : disk.tree.has path = .ok true := by
    obtain ⟨checked, location, _, found⟩ := Tree.isFile_eq_ok_iff.mp isFile
    exact map_eq_ok_iff.mpr ⟨_, Tree.look_eq_ok_iff.mpr ⟨checked, location, found⟩, rfl⟩
  refine Job.keeps_bind (Job.keeps_lift (Work.keeps_tree disk)) (Job.keeps_bind (Job.keeps_ofDisk has) ?_)
  rw [if_pos rfl]
  apply Job.keeps_bind (Job.keeps_ofDisk read)
  rw [parsed]
  exact Job.keeps_pure flow

theorem ends_projectFlow {table : Text} {flow : Json} {result : Projected × List Repair}
    (ended : Job.Ends (projectFlow registry specs table flow) before result after) :
    registry ≠ [] ∧ (∃ target, (Projection.project registry specs target flow).outcome = .ok result.1) ∧
      after.disk = before.disk := by
  unfold projectFlow at ended
  split at ended
  · exact absurd ended Job.not_ends_mishap
  · rename_i projector made
    unfold Projector.make at made
    split at made
    · cases made
    · rename_i present
      cases made
      simp only [Projector.run, Job.ends_bind_iff, Job.ends_lift_iff, Work.ends_tellAll_iff] at ended
      obtain ⟨_, _, rfl, rest⟩ := ended
      split at rest
      · rename_i projects
        obtain ⟨rfl, rfl⟩ := Job.ends_pure_iff.mp rest
        exact ⟨by simpa using present, ⟨_, projects⟩, rfl⟩
      · obtain ⟨same, -⟩ := Job.ends_ofExcept_iff.mp rest
        cases same

-- A settled flow comes out of its projection with no repair and in the same form.
theorem keeps_projectFlow (disk : Disk) (table : Text) {key : Text} {fields contents : Fields} (present : registry ≠ [])
    (distinct : (registry.map Prod.fst).Nodup) (given : fields.lookup ("flowContents" : Text) = some (.object contents))
    (settled : Projection.Settled registry specs key contents) (storable : Json.Storable (.object contents)) :
    ∃ flow, Job.Keeps (projectFlow registry specs table (.object fields)) disk (⟨flow, key⟩, []) ∧
      flow.canonical = Json.canonical (.object fields) := by
  have filled : ¬registry.isEmpty := by simpa using present
  obtain ⟨flow, projects, same⟩ := Projection.project_of_steady distinct
    (((some table).filter fun name => !name.isEmpty).map Text.upper) given settled.steady storable.readable.distinct
  refine ⟨flow, ?_, same⟩
  unfold projectFlow Projector.make
  rw [if_neg filled]
  simp only [Projector.run, projects]
  exact Job.keeps_bind (Job.keeps_lift (Work.keeps_tellAll _ _)) (Job.keeps_pure _)

theorem reads_buildRegistry (specs : List Spec) : Job.Reads (buildRegistry specs) := by
  refine Job.reads_bind (Job.reads_tellAll _) fun _ => ?_
  split
  · exact Job.reads_pure _
  · exact Job.reads_ofExcept _

theorem reads_readFlow (path : Path) : Job.Reads (readFlow path) := by
  refine Job.reads_bind Job.reads_tree fun tree => Job.reads_bind (Job.reads_ofDisk _) fun there => ?_
  split
  · refine Job.reads_bind (Job.reads_ofDisk _) fun bytes => ?_
    split
    · exact Job.reads_pure _
    · exact Job.reads_throw _
  · exact Job.reads_bind (Job.reads_tell _ _) fun _ => Job.reads_pure _

theorem reads_projectFlow (registry : Registry) (specs : List Spec) (target : Text) (flow : Json) :
    Job.Reads (projectFlow registry specs target flow) := by
  unfold projectFlow
  split
  · exact Job.reads_throw _
  · refine Job.reads_bind (Job.reads_tellAll _) fun _ => ?_
    split
    · exact Job.reads_pure _
    · exact Job.reads_ofExcept _

theorem reads_verifyUnwritten (specs : List Spec) (artifacts : Artifacts) (layout : Layout) :
    Job.Reads (verifyUnwritten specs artifacts layout) := by
  have reread : ∀ path, Job.Reads (reread artifacts path) := by
    intro path
    unfold Project.reread
    split
    · exact Job.reads_pure _
    · exact Job.reads_throw _
  refine Job.reads_bind (reread _) fun registry => Job.reads_bind (reread _) fun flow => ?_
  split
  · exact Job.reads_pure _
  · exact Job.reads_throw _

theorem stopsBy_buildRegistry (specs : List Spec) :
    Job.StopsBy [.templateRender, .registryConflict] (buildRegistry specs) := by
  refine Job.stopsBy_bind (Job.stopsBy_lift _) fun _ => ?_
  split
  · exact Job.stopsBy_pure _
  · rename_i fault _
    exact Job.stopsBy_throw fault.isOf_stopped

theorem stopsBy_readFlow (path : Path) : Job.StopsBy [.flowDrift] (readFlow path) := by
  refine Job.stopsBy_bind (Job.stopsBy_lift _) fun tree => Job.stopsBy_bind (Job.stopsBy_ofDisk _) fun there => ?_
  split
  · refine Job.stopsBy_bind (Job.stopsBy_ofDisk _) fun bytes => ?_
    split
    · exact Job.stopsBy_pure _
    · rename_i mishap _
      have listed : (Stopped.failure (FlowDrift.unreadable mishap.message path.toText).failure).IsOf [.flowDrift] :=
        List.mem_cons_self ..
      exact Job.stopsBy_throw listed
  · exact Job.stopsBy_bind (Job.stopsBy_lift _) fun _ => Job.stopsBy_pure _

theorem stopsBy_projectFlow (registry : Registry) (specs : List Spec) (target : Text) (flow : Json) :
    Job.StopsBy [.flowDrift] (projectFlow registry specs target flow) := by
  unfold projectFlow
  split
  · exact Job.stopsBy_mishap _
  · refine Job.stopsBy_bind (Job.stopsBy_lift _) fun _ => ?_
    split
    · exact Job.stopsBy_pure _
    · rename_i stop _
      exact Job.stopsBy_throw stop.isOf_stopped

theorem stopsBy_loadEach (paths : List Path) : Job.StopsBy [] (loadEach paths) := by
  induction paths with
  | nil => exact Job.stopsBy_pure _
  | cons path rest ih =>
    refine Job.stopsBy_bind (Job.stopsBy_settled _) fun outcome => ?_
    split
    · exact Job.stopsBy_bind ih fun _ => Job.stopsBy_pure _
    · exact Job.stopsBy_bind ih fun _ => Job.stopsBy_pure _
    · exact Job.stopsBy_mishap _

theorem stopsBy_verifyPaths (paths : List Path) (registryPath flowPath : Path) :
    Job.StopsBy [] (verifyPaths paths registryPath flowPath) := by
  have ofDocument : ∀ path invariant, Job.StopsBy [] (Project.document path invariant) := fun path invariant =>
    Job.stopsBy_bind (Job.stopsBy_lift _) fun _ => Job.stopsBy_ofDisk _
  refine Job.stopsBy_bind (stopsBy_loadEach paths) fun loaded => Job.stopsBy_bind (ofDocument _ _) fun registry =>
    Job.stopsBy_bind (ofDocument _ _) fun flow => ?_
  dsimp only
  split
  · exact Job.stopsBy_pure _
  · unfold verifyDocuments
    split
    · exact Job.stopsBy_mishap _
    · exact Job.stopsBy_bind (Job.stopsBy_lift _) fun _ => Job.stopsBy_pure _

def verification (specs : List Spec) (registry flow : Json) : Except Stopped (List Violation) :=
  (Contract.violations specs registry flow).mapError fun collection => .mishap (.unhashable collection.kind)

theorem keeps_verifyDocuments (disk : Disk) (specs : List Spec) (registry flow : Json) :
    Work.Keeps (verifyDocuments specs registry flow []).run disk (verification specs registry flow) := by
  unfold verifyDocuments Verifier.run verification
  cases found : Contract.violations specs registry flow with
  | error collection => exact Job.keeps_throw disk _
  | ok violations => exact Job.keeps_bind (Job.keeps_lift (Work.keeps_tellAll disk _)) (Job.keeps_pure _)

theorem keeps_loadEach (loads : Loads disk.tree paths specs) : Job.Keeps (loadEach paths) disk (specs, []) := by
  intro log
  have loaded : ∃ after, Job.Ends (loadEach paths) ⟨disk, log⟩ (specs, []) after := ends_loadEach_iff.mpr loads
  obtain ⟨after, ended⟩ := loaded
  obtain rfl : after.disk = disk := Job.disk_of_reads (reads_loadEach _) ended
  exact ⟨after.log, ended⟩

theorem keeps_document {document : Json} {invariant : Invariant} (holds : HoldsJson disk.tree path document) :
    Job.Keeps (Project.document path invariant) disk (document, []) :=
  Job.keeps_bind (Job.keeps_lift (Work.keeps_tree disk)) (Job.keeps_ofDisk (readDocument_eq_ok_iff.mpr holds))

theorem keeps_verification {registryPath flowPath : Path} {registry flow : Json} (loads : Loads disk.tree paths specs)
    (holdsRegistry : HoldsJson disk.tree registryPath registry) (holdsFlow : HoldsJson disk.tree flowPath flow)
    (present : registry ≠ .null ∧ flow ≠ .null) :
    Work.Keeps (verifyPaths paths registryPath flowPath).run disk (verification specs registry flow) := by
  refine Job.keeps_run_bind (keeps_loadEach loads) (Job.keeps_run_bind (keeps_document holdsRegistry)
    (Job.keeps_run_bind (keeps_document holdsFlow) ?_))
  dsimp only
  rw [if_neg (not_or.mpr present)]
  exact keeps_verifyDocuments disk specs registry flow

theorem keeps_reread {artifacts : Artifacts} {text : Text} {document : Json} (listed : artifacts.lookup path = some text)
    (read : Json.read text = .ok document) : Job.Keeps (reread artifacts path) disk document := by
  unfold reread
  rw [listed, Option.getD_some, read]
  exact Job.keeps_pure _

theorem keeps_verifyUnwritten {layout : Layout} {artifacts : Artifacts} {registry flow : Json}
    (ofRegistry : Job.Keeps (reread artifacts layout.registry) disk registry)
    (ofFlow : Job.Keeps (reread artifacts layout.flow) disk flow) :
    Work.Keeps (verifyUnwritten specs artifacts layout).run disk (verification specs registry flow) := by
  refine Job.keeps_run_bind ofRegistry (Job.keeps_run_bind ofFlow ?_)
  unfold Verifier.run verification
  cases found : Contract.violations specs registry flow with
  | error collection => exact Job.keeps_throw disk _
  | ok violations => exact Job.keeps_pure _

theorem keeps_verifyPaths {registryPath flowPath : Path} {flow : Json} {document : Json} (loads : Loads disk.tree paths specs)
    (holdsRegistry : HoldsJson disk.tree registryPath document) (holdsFlow : HoldsJson disk.tree flowPath flow)
    (clean : Contract.violations specs document flow = .ok []) :
    Job.Keeps (verifyPaths paths registryPath flowPath) disk [] := by
  intro log
  have passes : ∃ after, Job.Ends (verifyPaths paths registryPath flowPath) ⟨disk, log⟩ [] after :=
    ends_verifyPaths_iff.mpr ⟨specs, document, flow, loads, holdsRegistry, holdsFlow, .inr (.inr clean)⟩
  obtain ⟨after, ended⟩ := passes
  obtain rfl : after.disk = disk := Job.disk_of_reads (reads_verifyPaths _ _ _) ended
  exact ⟨after.log, ended⟩

end Project

end ChangeCapture
