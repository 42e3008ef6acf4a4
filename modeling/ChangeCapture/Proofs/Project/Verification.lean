import ChangeCapture.Project.Verification
import ChangeCapture.Proofs.Contract.Agreement
import ChangeCapture.Proofs.Spec.Sample
import ChangeCapture.Proofs.Work
import Mathlib.Data.List.Forall2

namespace ChangeCapture

variable {tree : Tree} {path : Path} {paths : List Path} {spec : Spec} {specs : List Spec} {before after : Desk}

def HoldsJson (tree : Tree) (path : Path) (document : Json) : Prop :=
  tree.isFile path = .ok true ∧ ∃ bytes, tree.read path = .ok bytes ∧ Content.json bytes = .ok document

theorem HoldsJson.unique {one other : Json} (first : HoldsJson tree path one) (second : HoldsJson tree path other) :
    one = other := by
  obtain ⟨-, bytes, read, parsed⟩ := first
  obtain ⟨-, _, again, same⟩ := second
  cases read.symm.trans again
  exact ok_inj.mp (parsed.symm.trans same)

theorem Spec.read_eq_ok_iff : Spec.read tree path = .ok spec ↔
    tree.isFile path = .ok true ∧ ∃ bytes, tree.read path = .ok bytes ∧ Spec.ofBytes path bytes = .ok spec := by
  simp only [Spec.read, bind_eq_ok_iff, mapError_eq_ok_iff]
  constructor
  · intro held
    obtain ⟨isFile, found, rest⟩ := held
    split at rest
    · rename_i there
      subst there
      obtain ⟨bytes, content, parsed⟩ := bind_eq_ok_iff.mp rest
      exact ⟨found, bytes, mapError_eq_ok_iff.mp content, parsed⟩
    · cases rest
  · intro held
    obtain ⟨found, bytes, content, parsed⟩ := held
    refine ⟨true, found, ?_⟩
    rw [if_pos rfl]
    exact bind_eq_ok_iff.mpr ⟨bytes, mapError_eq_ok_iff.mpr content, parsed⟩

def Loads (tree : Tree) (paths : List Path) (specs : List Spec) : Prop :=
  List.Forall₂ (fun path spec => Spec.read tree path = .ok spec) paths specs

theorem ends_load_iff : Job.Ends (Spec.load path) before spec after ↔ Spec.read before.disk.tree path = .ok spec ∧
    { before with log := before.log ++ [⟨.info, Spec.loadedMessage path spec⟩] } = after := by
  simp only [Spec.load, Job.ends_bind_iff, Job.ends_lift_iff, Work.ends_tree_iff, Job.ends_ofExcept_iff,
    Work.ends_tell_iff, Job.ends_pure_iff]
  constructor
  · intro held
    obtain ⟨tree, middle, ⟨rfl, rfl⟩, _, _, ⟨read, rfl⟩, _, _, rfl, rfl, rfl⟩ := held
    exact ⟨read, rfl⟩
  · intro held
    obtain ⟨read, rfl⟩ := held
    exact ⟨_, _, ⟨rfl, rfl⟩, _, _, ⟨read, rfl⟩, (), _, rfl, rfl, rfl⟩

theorem disk_of_load {outcome : Except Stopped Spec} (ended : Work.Ends (Spec.load path).run before outcome after) :
    outcome = Spec.read before.disk.tree path ∧ after.disk = before.disk := by
  cases read : Spec.read before.disk.tree path with
  | ok spec =>
    have loaded := ends_load_iff.mpr ⟨read, rfl⟩
    obtain ⟨rfl, rfl⟩ := Work.ends_unique loaded ended
    exact ⟨rfl, rfl⟩
  | error stopped =>
    have refused : Work.Ends (Spec.load path).run before (.error stopped) before := by
      simp only [Spec.load, ExceptT.run_bind, Work.ends_bind_iff]
      refine ⟨.ok before.disk.tree, before, rfl, ?_⟩
      dsimp only
      rw [read]
      rfl
    obtain ⟨rfl, rfl⟩ := Work.ends_unique refused ended
    exact ⟨rfl, rfl⟩

theorem Spec.reads_load (path : Path) : Job.Reads (Spec.load path) :=
  Job.reads_bind Job.reads_tree fun _ => Job.reads_bind (Job.reads_ofExcept _) fun _ =>
    Job.reads_bind (Job.reads_tell _ _) fun _ => Job.reads_pure _

end ChangeCapture

namespace ChangeCapture.Project

variable {tree : Tree} {path : Path} {paths : List Path} {spec : Spec} {specs : List Spec} {before after : Desk}

theorem reads_loadEach (paths : List Path) : Job.Reads (loadEach paths) := by
  induction paths with
  | nil => exact Job.reads_pure _
  | cons path rest ih =>
    refine Job.reads_bind (Job.reads_settled (Spec.reads_load path)) fun outcome => ?_
    split
    · exact Job.reads_bind ih fun _ => Job.reads_pure _
    · exact Job.reads_bind ih fun _ => Job.reads_pure _
    · exact Job.reads_throw _

theorem ends_loadEach_iff : (∃ after, Job.Ends (loadEach paths) before (specs, []) after) ↔
    Loads before.disk.tree paths specs := by
  induction paths generalizing before specs with
  | nil =>
    simp only [loadEach, Job.ends_pure_iff]
    constructor
    · intro held
      obtain ⟨_, same, -⟩ := held
      cases same
      exact .nil
    · intro same
      cases same
      exact ⟨before, rfl, rfl⟩
  | cons path rest ih =>
    simp only [loadEach, Job.ends_bind_iff, Job.ends_settled_iff]
    constructor
    · intro held
      obtain ⟨after, outcome, middle, first, second⟩ := held
      obtain ⟨read, same⟩ := disk_of_load first
      split at second
      · rename_i spec
        obtain ⟨⟨later, violations⟩, last, third, fourth⟩ := Job.ends_bind_iff.mp second
        obtain ⟨equal, rfl⟩ := Job.ends_pure_iff.mp fourth
        cases equal
        have loads := ih.mp ⟨_, third⟩
        rw [same] at loads
        exact .cons read.symm loads
      · obtain ⟨later, last, third, fourth⟩ := Job.ends_bind_iff.mp second
        obtain ⟨equal, -⟩ := Job.ends_pure_iff.mp fourth
        cases equal
      · exact absurd second Job.not_ends_mishap
    · intro loads
      cases loads with
      | @cons _ spec _ later read loads =>
        have followed : ∃ last, Job.Ends (loadEach rest) { before with
            log := before.log ++ [⟨.info, Spec.loadedMessage path spec⟩] } (later, []) last := ih.mpr loads
        obtain ⟨last, third⟩ := followed
        exact ⟨last, .ok spec, _, ends_load_iff.mpr ⟨read, rfl⟩, Job.ends_bind_iff.mpr ⟨_, _, third, rfl⟩⟩

theorem readDocument_eq_ok_iff {invariant : Invariant} {document : Json} :
    readDocument tree path invariant = .ok (document, []) ↔ HoldsJson tree path document := by
  simp only [readDocument, bind_eq_ok_iff, HoldsJson]
  constructor
  · intro held
    obtain ⟨isFile, found, rest⟩ := held
    split at rest
    · rename_i there
      subst there
      obtain ⟨bytes, read, parsed⟩ := bind_eq_ok_iff.mp rest
      split at parsed
      · rename_i same
        cases parsed
        exact ⟨found, bytes, read, same⟩
      · cases parsed
    · cases rest
  · intro held
    obtain ⟨found, bytes, read, same⟩ := held
    refine ⟨true, found, ?_⟩
    rw [if_pos rfl, read]
    simp [bind, Except.bind, same]

theorem ends_document_iff {invariant : Invariant} {document : Json × List Violation} :
    Job.Ends (Project.document path invariant) before document after ↔
      readDocument before.disk.tree path invariant = .ok document ∧ before = after := by
  simp only [Project.document, Job.ends_bind_iff, Job.ends_lift_iff, Work.ends_tree_iff, Job.ends_ofDisk_iff]
  constructor
  · intro held
    obtain ⟨_, _, ⟨rfl, rfl⟩, read, rfl⟩ := held
    exact ⟨read, rfl⟩
  · intro held
    obtain ⟨read, rfl⟩ := held
    exact ⟨_, _, ⟨rfl, rfl⟩, read, rfl⟩

theorem ends_verifyDocuments_iff {registry flow : Json} {violations : List Violation} :
    (∃ after, Job.Ends (verifyDocuments specs registry flow violations) before [] after) ↔
      violations = [] ∧ Contract.violations specs registry flow = .ok [] := by
  unfold verifyDocuments Verifier.run
  cases found : Contract.violations specs registry flow with
  | error collection => simpa [Except.map] using fun _ => Job.not_ends_mishap
  | ok more =>
    simp only [Except.map, Job.ends_bind_iff, Job.ends_lift_iff, Work.ends_tellAll_iff, Job.ends_pure_iff, ok_inj,
      List.append_eq_nil_iff]
    constructor
    · intro held
      obtain ⟨_, _, _, rfl, none, -⟩ := held
      exact none
    · intro held
      obtain ⟨rfl, rfl⟩ := held
      exact ⟨_, (), _, rfl, ⟨rfl, rfl⟩, rfl⟩

theorem reads_verifyDocuments (specs : List Spec) (registry flow : Json) (violations : List Violation) :
    Job.Reads (verifyDocuments specs registry flow violations) := by
  unfold verifyDocuments
  split
  · exact Job.reads_throw _
  · exact Job.reads_bind (Job.reads_tellAll _) fun _ => Job.reads_pure _

theorem reads_verifyPaths (paths : List Path) (registryPath flowPath : Path) :
    Job.Reads (verifyPaths paths registryPath flowPath) := by
  have ofDocument : ∀ path invariant, Job.Reads (Project.document path invariant) := fun path invariant =>
    Job.reads_bind Job.reads_tree fun _ => Job.reads_ofDisk _
  refine Job.reads_bind (reads_loadEach paths) fun loaded => Job.reads_bind (ofDocument _ _) fun registry =>
    Job.reads_bind (ofDocument _ _) fun flow => ?_
  dsimp only
  split
  · exact Job.reads_pure _
  · exact reads_verifyDocuments _ _ _ _

-- What it takes for nothing to be reported: all files can be read, and then the
-- documents either are compared and agree, or one of them is null and they are not.
theorem ends_verifyPaths_iff {registryPath flowPath : Path} :
    (∃ after, Job.Ends (verifyPaths paths registryPath flowPath) before [] after) ↔
      ∃ specs registry flow, Loads before.disk.tree paths specs ∧ HoldsJson before.disk.tree registryPath registry ∧
        HoldsJson before.disk.tree flowPath flow ∧
        (registry = .null ∨ flow = .null ∨ Contract.violations specs registry flow = .ok []) := by
  simp only [verifyPaths, Job.ends_bind_iff, ends_document_iff]
  constructor
  · intro held
    obtain ⟨after, ⟨specs, ofSpecs⟩, middle, loaded, ⟨registry, ofRegistry⟩, _, ⟨readRegistry, rfl⟩, ⟨flow, ofFlow⟩, _,
      ⟨readFlow, rfl⟩, rest⟩ := held
    have same := Job.disk_of_reads (reads_loadEach _) loaded
    rw [same] at readRegistry readFlow
    have clean : ofSpecs ++ ofRegistry ++ ofFlow = [] ∧
        (registry = .null ∨ flow = .null ∨ Contract.violations specs registry flow = .ok []) := by
      split at rest
      · rename_i missing
        obtain ⟨none, -⟩ := Job.ends_pure_iff.mp rest
        exact ⟨none, missing.imp_right .inl⟩
      · obtain ⟨none, agree⟩ := ends_verifyDocuments_iff.mp ⟨after, rest⟩
        exact ⟨none, .inr (.inr agree)⟩
    obtain ⟨none, agree⟩ := clean
    simp only [List.append_eq_nil_iff] at none
    obtain ⟨⟨rfl, rfl⟩, rfl⟩ := none
    exact ⟨specs, registry, flow, ends_loadEach_iff.mp ⟨_, loaded⟩, readDocument_eq_ok_iff.mp readRegistry,
      readDocument_eq_ok_iff.mp readFlow, agree⟩
  · intro held
    obtain ⟨specs, registry, flow, loads, holdsRegistry, holdsFlow, agree⟩ := held
    obtain ⟨middle, loaded⟩ := ends_loadEach_iff.mpr loads
    have same := Job.disk_of_reads (reads_loadEach _) loaded
    rw [← same] at holdsRegistry holdsFlow
    have rest : ∃ after, Job.Ends (if registry = .null ∨ flow = .null then pure []
        else verifyDocuments specs registry flow [] : Job (List Violation)) middle [] after := by
      split
      · exact ⟨middle, rfl⟩
      · rename_i present
        exact ends_verifyDocuments_iff.mpr ⟨rfl, (or_assoc.mpr agree).resolve_left present⟩
    obtain ⟨after, ended⟩ := rest
    exact ⟨after, (specs, []), middle, loaded, (registry, []), middle, ⟨readDocument_eq_ok_iff.mpr holdsRegistry, rfl⟩,
      (flow, []), middle, ⟨readDocument_eq_ok_iff.mpr holdsFlow, rfl⟩, ended⟩

-- Nothing is reported only if every file can be read and, with no null among the
-- documents, both are objects that the verifier finds nothing in. A null for either
-- document is passed over: it stands for a file that was reported, which this was not.
theorem passes_iff {registryPath flowPath : Path} :
    (∃ after, Job.Ends (verifyPaths paths registryPath flowPath) before [] after) ↔
      ∃ specs registry flow, Loads before.disk.tree paths specs ∧ HoldsJson before.disk.tree registryPath registry ∧
        HoldsJson before.disk.tree flowPath flow ∧ (registry ≠ .null ∧ flow ≠ .null →
          registry.isObject ∧ flow.isObject ∧ Contract.violations specs registry flow = .ok []) := by
  rw [ends_verifyPaths_iff]
  refine exists_congr fun specs => exists_congr fun registry => exists_congr fun flow =>
    and_congr_right fun _ => and_congr_right fun _ => and_congr_right fun _ => ?_
  constructor
  · rintro agree ⟨readable, present⟩
    have clean := (agree.resolve_left readable).resolve_left present
    obtain ⟨fields, contents, rfl, given, -⟩ := Contract.violations_eq_nil_iff.mp clean
    cases flow with
    | object => exact ⟨rfl, rfl, clean⟩
    | null | bool | int | double | text | list => cases given
  · intro agree
    by_cases missing : registry = .null ∨ flow = .null
    · exact missing.imp_right .inl
    · obtain ⟨-, -, clean⟩ := agree (not_or.mp missing)
      exact .inr (.inr clean)

def nullTree : Tree := ⟨[
  ([.given "t.yaml"], .file Spec.Sample.smallFile),
  ([.given "oracle.json"], .file (Spec.Sample.fileOf "\x7b\x7d")),
  ([.given "flow.json"], .file (Spec.Sample.fileOf "null"))]⟩

def nullDesk : Desk := ⟨⟨nullTree, ⟨"/", []⟩, 0, .none⟩, []⟩

theorem null_passes : ¬∀ paths registryPath flowPath before, paths ≠ [] →
    (∃ after, Job.Ends (verifyPaths paths registryPath flowPath) before [] after) →
    ∃ specs registry flow, Loads before.disk.tree paths specs ∧ HoldsJson before.disk.tree registryPath registry ∧
      HoldsJson before.disk.tree flowPath flow ∧ registry.isObject ∧ flow.isObject ∧
      Contract.violations specs registry flow = .ok [] := by
  intro claimed
  have read : Spec.read nullDesk.disk.tree Spec.Sample.smallPath = .ok Spec.Sample.small :=
    Spec.read_eq_ok_iff.mpr ⟨rfl, _, rfl, Spec.Sample.ofBytes_small⟩
  have holdsRegistry : HoldsJson nullDesk.disk.tree ⟨0, ["oracle.json"]⟩ (.object []) :=
    ⟨by decide +kernel, _, rfl, by decide +kernel⟩
  have holdsFlow : HoldsJson nullDesk.disk.tree ⟨0, ["flow.json"]⟩ .null := ⟨by decide +kernel, _, rfl, by decide +kernel⟩
  have passed : ∃ after, Job.Ends (verifyPaths [Spec.Sample.smallPath] ⟨0, ["oracle.json"]⟩ ⟨0, ["flow.json"]⟩) nullDesk [] after :=
    ends_verifyPaths_iff.mpr ⟨[Spec.Sample.small], _, _, .cons read .nil, holdsRegistry, holdsFlow, .inr (.inl rfl)⟩
  obtain ⟨_, _, flow, -, -, other, -, isObject, -⟩ := claimed _ _ _ _ (List.cons_ne_nil _ _) passed
  rw [← holdsFlow.unique other] at isObject
  cases isObject

end ChangeCapture.Project
