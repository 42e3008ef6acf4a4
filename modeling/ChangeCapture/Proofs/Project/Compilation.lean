import ChangeCapture.Proofs.Contract.Reordering
import ChangeCapture.Proofs.Files.Listing
import ChangeCapture.Proofs.Project.Preparation

namespace ChangeCapture

open Json (Storable canonical)

variable {tree : Tree} {path : Path} {specs : List Spec} {registry : Registry} {document : Json} {text : Text}

theorem holds_returned (readable : document.Readable) (current : Artifacts.isCurrent tree path document.write = .ok true) :
    HoldsJson tree path document.returned := by
  obtain ⟨isFile, bytes, read, held⟩ := Artifacts.isCurrent_eq_ok_iff.mp current
  exact ⟨isFile, bytes, read, Content.json_of_text readable held⟩

theorem holdsJson_of_isCurrent (storable : Storable document) (current : Artifacts.isCurrent tree path document.write = .ok true) :
    HoldsJson tree path document.canonical := by
  rw [← Json.returned_of_exact storable.exact]
  exact holds_returned storable.readable current

theorem Loads.of_within {before after : Tree} {touched : List Location} {paths : List Path} (loads : Loads before paths specs)
    (within : Tree.Within touched before after) (apart : ∀ path ∈ paths, path.place ∉ touched) : Loads after paths specs := by
  induction loads with
  | nil => exact .nil
  | @cons path spec paths specs read _ ih =>
    refine .cons ?_ (ih fun path member => apart path (List.mem_cons_of_mem _ member))
    have here := apart path (List.mem_cons_self ..)
    obtain ⟨isFile, bytes, content, parsed⟩ := Spec.read_eq_ok_iff.mp read
    exact Spec.read_eq_ok_iff.mpr ⟨within.isFile here isFile, bytes, within.read here content, parsed⟩

theorem Registry.storable_toJson (built : Registry.build specs = .ok registry) : Storable registry.toJson := by
  rw [Contract.toJson_of_build built]
  refine Json.storable_object.mpr ⟨by rw [Contract.keys_documentFields]; exact Registry.keys_of_build built, fun field member => ?_⟩
  obtain ⟨item, -, rfl⟩ := List.mem_map.mp member
  have names : Entry.fieldNames.Nodup := by decide
  refine Json.storable_object.mpr ⟨names, fun inner there => ?_⟩
  simp only [Entry.toFields, List.mem_cons, List.not_mem_nil, or_false] at there
  rcases there with rfl | rfl | rfl | rfl <;> exact Json.storable_text _

namespace Project

-- A project on which a run of the compiler has nothing to do: registry and flow are
-- those of the specifications, in the form that they are written in.
structure Finished (layout : Layout) (disk : Disk) (paths : List Path) (specs : List Spec) (registry : Registry)
    (flow contents : Fields) (key : Text) : Prop where
  present : paths ≠ []
  listed : layout.specPaths disk.tree = .ok paths
  others : ∀ path ∈ paths,
    (path :: paths.filter fun other => disk.site.resolve other ≠ disk.site.resolve path).Perm paths
  apart : layout.registry ≠ layout.flow
  loads : Loads disk.tree paths specs
  distinct : (specs.map Spec.tableName).Nodup
  built : Registry.build specs = .ok registry
  registryText : Artifacts.isCurrent disk.tree layout.registry registry.toJson.write = .ok true
  flowText : Artifacts.isCurrent disk.tree layout.flow (Json.object flow).write = .ok true
  storable : Storable (.object flow)
  canonical : Json.canonical (.object flow) = .object flow
  given : flow.lookup ("flowContents" : Text) = some (.object contents)
  settled : Projection.Settled registry specs key contents
  clean : Contract.violations specs registry.toJson.canonical (.object flow) = .ok []

namespace Finished

variable {layout : Layout} {disk : Disk} {paths : List Path} {flow contents : Fields} {key : Text}

theorem holdsRegistry (finished : Finished layout disk paths specs registry flow contents key) :
    HoldsJson disk.tree layout.registry registry.toJson.canonical :=
  holdsJson_of_isCurrent (Registry.storable_toJson finished.built) finished.registryText

theorem holdsFlow (finished : Finished layout disk paths specs registry flow contents key) :
    HoldsJson disk.tree layout.flow (.object flow) := by
  have held := holdsJson_of_isCurrent finished.storable finished.flowText
  rwa [finished.canonical] at held

theorem filled (finished : Finished layout disk paths specs registry flow contents key) : registry ≠ [] := by
  obtain ⟨_, _, _, entry, _, there, _⟩ := finished.settled.processors
  intro same
  subst same
  cases there

theorem current_artifacts (finished : Finished layout disk paths specs registry flow contents key) {flowText : Text}
    (same : (Json.object flow).write = flowText) : ∀ artifact ∈
      Artifacts.ofPairs [(layout.registry, registry.toJson.write), (layout.flow, flowText)],
        Artifacts.isCurrent disk.tree artifact.1 artifact.2 = .ok true := by
  have artifacts : Artifacts.ofPairs [(layout.registry, registry.toJson.write), (layout.flow, flowText)] =
      [(layout.registry, registry.toJson.write), (layout.flow, flowText)] := by
    simp [Artifacts.ofPairs, Artifacts.put, finished.apart]
  rw [artifacts]
  exact List.forall_mem_cons.mpr ⟨finished.registryText, List.forall_mem_singleton.mpr (same ▸ finished.flowText)⟩

theorem keeps_prepare (finished : Finished layout disk paths specs registry flow contents key) (member : path ∈ paths) :
    ∃ made : Preparation, Job.Keeps (prepare layout path) disk made ∧
      (∀ artifact ∈ made.artifacts layout, Artifacts.isCurrent disk.tree artifact.1 artifact.2 = .ok true) ∧
      Job.Keeps (verifyPaths made.paths layout.registry layout.flow) disk [] ∧
      made.compiled path false [] [] = .clean ⟨.ok, path, registry, some key, [], [], [], none, false⟩ := by
  -- The specifications are read with the one of this run first, so not in the order of the listing.
  obtain ⟨all, loads, same⟩ := finished.loads.of_perm (finished.others path member)
  have perm := same.symm
  have built := Registry.build_of_perm finished.built perm
  have settled := finished.settled.of_lookup (Projection.lookup_byTable_of_perm finished.distinct perm)
  have clean := Contract.violations_of_perm finished.distinct perm finished.clean
  let others := paths.filter fun other => disk.site.resolve other ≠ disk.site.resolve path
  have set : specSet layout disk path = .ok others := by
    rw [specSet, finished.listed]
    rfl
  have verifies := keeps_verifyPaths loads finished.holdsRegistry finished.holdsFlow clean
  cases loads with
  | @cons _ spec _ rest read loads =>
    obtain ⟨projected, projects, form⟩ := keeps_projectFlow disk spec.tableName finished.filled
      (Registry.keys_of_build finished.built) finished.given settled (finished.storable.lookup finished.given)
    let made : Preparation := ⟨path :: others, spec :: rest, spec.tableName, registry, ⟨projected, key⟩, []⟩
    have prepares : Job.Keeps (prepare layout path) disk made :=
      Job.keeps_bind (keeps_load read) (Job.keeps_bind (Job.keeps_lift (Work.keeps_disk disk))
        (Job.keeps_bind (Job.keeps_ofDisk set) (Job.keeps_bind (keeps_loadAll loads) (Job.keeps_bind (keeps_buildRegistry built)
          (Job.keeps_bind (keeps_readFlow finished.holdsFlow) (Job.keeps_bind projects (Job.keeps_pure _)))))))
    exact ⟨made, prepares, finished.current_artifacts (Json.write_congr form).symm, verifies, rfl⟩

theorem keeps_compileSpecs (finished : Finished layout disk paths specs registry flow contents key) (member : path ∈ paths) :
    Job.Keeps (compileSpecs layout path false) disk
      (.clean ⟨.ok, path, registry, some key, [], [], [], none, false⟩) := by
  obtain ⟨made, prepares, current, verifies, compiled⟩ := finished.keeps_prepare member
  have writes : Job.Keeps (made.carryOut layout false) disk ([], []) :=
    Job.keeps_bind (Artifacts.keeps_write current) (Job.keeps_bind verifies (Job.keeps_pure _))
  rw [compileSpecs_eq, ← compiled]
  exact Job.keeps_bind (Job.keeps_lift (Work.keeps_tell _ _ _)) (Job.keeps_bind prepares (Job.keeps_bind writes
    (made.keeps_report path false ([], []) disk)))

theorem keeps_compile (finished : Finished layout disk paths specs registry flow contents key) (member : path ∈ paths) :
    Work.Keeps (compile layout path false) disk
      (.ok ⟨.ok, path, registry, some key, [], [], [], none, false⟩) :=
  Work.keeps_bind (finished.keeps_compileSpecs member) (Work.keeps_pure _)

end Finished

variable {layout : Layout} {before after : Desk} {paths : List Path} {compilation : Compilation}

structure Wrote (layout : Layout) (before after : Disk) (paths : List Path) (specs : List Spec) (registry : Registry)
    (flow : Json) (projected : Projected) : Prop where
  loads : Loads before.tree paths specs
  built : Registry.build specs = .ok registry
  filled : registry ≠ []
  found : flow = .null ∨ HoldsJson before.tree layout.flow flow
  projects : ∃ target, (Projection.project registry specs target flow).outcome = .ok projected
  writes : ∃ start written done, Work.Ends (Artifacts.write (Artifacts.ofPairs
    [(layout.registry, registry.toJson.write), (layout.flow, projected.flow.write)])) start (.ok written) done ∧
      start.disk = before ∧ done.disk = after
  verified : ∃ start last, Job.Ends (verifyPaths paths layout.registry layout.flow) start [] last ∧ start.disk = after

-- A project whose registry and flow are different files outside of the directory of
-- specifications, and whose flow has no doubles in it.
structure WellPlaced (layout : Layout) (tree : Tree) : Prop where
  wellFormed : tree.WellFormed
  registry : layout.registry.IsPlain
  flow : layout.flow.IsPlain
  apart : layout.registry.place ≠ layout.flow.place
  outside : layout.ListsApart [layout.registry.place, layout.flow.place]
  exact : ∀ flow, HoldsJson tree layout.flow flow → flow.Exact

namespace WellPlaced

theorem storable (placed : WellPlaced layout tree) {flow : Json} (found : flow = .null ∨ HoldsJson tree layout.flow flow) :
    Storable flow := by
  rcases found with rfl | holds
  · exact ⟨rfl, rfl⟩
  · have exact := placed.exact flow holds
    obtain ⟨-, bytes, -, parsed⟩ := holds
    exact ⟨Content.readable_of_json parsed, exact⟩

end WellPlaced

theorem artifacts_of_apart (apart : layout.registry.place ≠ layout.flow.place) (registryText flowText : Text) :
    Artifacts.ofPairs [(layout.registry, registryText), (layout.flow, flowText)] =
      [(layout.registry, registryText), (layout.flow, flowText)] := by
  have differ : layout.registry ≠ layout.flow := fun same => apart (congrArg Path.place same)
  simp [Artifacts.ofPairs, Artifacts.put, differ]

theorem Wrote.within {before after : Disk} {flow : Json} {projected : Projected} (placed : WellPlaced layout before.tree)
    (wrote : Wrote layout before after paths specs registry flow projected) :
    Tree.Within [layout.registry.place, layout.flow.place] before.tree after.tree ∧
      Artifacts.isCurrent after.tree layout.registry registry.toJson.write = .ok true ∧
      Artifacts.isCurrent after.tree layout.flow projected.flow.write = .ok true := by
  obtain ⟨start, written, done, writes, rfl, rfl⟩ := wrote.writes
  rw [artifacts_of_apart placed.apart] at writes
  obtain ⟨within, held⟩ := Artifacts.ends_write (by simpa using ⟨placed.registry, placed.flow⟩) (by simpa using placed.apart) writes
  exact ⟨within, held (layout.registry, registry.toJson.write) (by simp), held (layout.flow, projected.flow.write) (by simp)⟩

theorem Wrote.site {before after : Disk} {flow : Json} {projected : Projected} (placed : WellPlaced layout before.tree)
    (wrote : Wrote layout before after paths specs registry flow projected) : after.site = before.site := by
  obtain ⟨start, written, done, writes, rfl, rfl⟩ := wrote.writes
  rw [artifacts_of_apart placed.apart] at writes
  exact Artifacts.site_of_write (by simpa using ⟨placed.registry, placed.flow⟩) writes

theorem Wrote.verifies {before after : Disk} {flow : Json} {projected : Projected} (placed : WellPlaced layout before.tree)
    (wrote : Wrote layout before after paths specs registry flow projected) (storable : Storable projected.flow)
    (apart : ∀ path ∈ paths, path.place ∉ [layout.registry.place, layout.flow.place]) : Loads after.tree paths specs ∧
      Artifacts.isCurrent after.tree layout.registry registry.toJson.write = .ok true ∧
      Artifacts.isCurrent after.tree layout.flow projected.flow.write = .ok true ∧
      (registry.toJson.canonical = .null ∨ projected.flow.canonical = .null ∨
        Contract.violations specs registry.toJson.canonical projected.flow.canonical = .ok []) := by
  obtain ⟨within, registryText, flowText⟩ := wrote.within placed
  obtain ⟨start, last, checked, rfl⟩ := wrote.verified
  obtain ⟨specs', registry', flow', loads', holdsRegistry, holdsFlow, clean⟩ := ends_verifyPaths_iff.mp ⟨last, checked⟩
  have loads := wrote.loads.of_within within apart
  cases loads.unique loads'
  cases holdsRegistry.unique (holdsJson_of_isCurrent (Registry.storable_toJson wrote.built) registryText)
  cases holdsFlow.unique (holdsJson_of_isCurrent storable flowText)
  exact ⟨loads, registryText, flowText, clean⟩

-- The form that a settled flow has when it is read again.
theorem exists_canonical_flow {flow : Json} {contents : Fields} {key : Text} (storable : Storable flow)
    (given : flow.field? "flowContents" = some (.object contents)) (settled : Projection.Settled registry specs key contents) :
    ∃ fields inner, flow.canonical = .object fields ∧ Storable (.object fields) ∧
      Json.canonical (.object fields) = .object fields ∧ (Json.object fields).write = flow.write ∧
      fields.lookup ("flowContents" : Text) = some (.object inner) ∧ Projection.Settled registry specs key inner := by
  obtain ⟨fields, rfl, there⟩ := Json.field?_eq_some_iff.mp given
  have stored := Json.storable_canonical storable
  have form := Json.canonical_canonical (.object fields)
  have same := Json.canonical_object fields
  rw [same] at stored form
  exact ⟨_, _, same, stored, form, Json.write_congr (form.trans same.symm),
    storable.readable.distinct.lookup_object_canonical_iff.mpr ⟨_, there, rfl⟩, settled.canonical (storable.lookup there)⟩

section Sample

open Spec.Sample (small smallPath smallFile fileOf)

def bareFlow : Json :=
  let named (id : Text) : Json := .object [("identifier", .text id)]
  let connection (edge : FlowTemplate.Edge) : Json := .object [
    ("identifier", .text edge.id), ("source", .object [("id", .text edge.source)]),
    ("destination", .object [("id", .text edge.destination)])]
  .object [("flowContents", .object [
    ("processors", .list (FlowTemplate.processorIds.map named)),
    ("connections", .list (FlowTemplate.edges.map connection)),
    ("controllerServices", .list (FlowTemplate.serviceIds.map named))])]

def sampleRegistry : Registry := Registry.sorted ([small].flatMap Registry.generated)

def sampleFlow : Json :=
  ((Projection.project sampleRegistry [small] none bareFlow).outcome.toOption.map Projected.flow).getD .null

def sampleLayout : Layout := .ofTexts none (some ".") (some "out/oracle.json") (some "out/flow.json")

def sampleTree (registry flow : Bytes) : Tree := ⟨[
  ([.given "t.yaml"], .file smallFile), ([.given "out"], .directory),
  ([.given "out", .given "oracle.json"], .file registry), ([.given "out", .given "flow.json"], .file flow)]⟩

-- The specification is a link to a file that is kept elsewhere.
def sampleDisk (registry flow : Bytes) : Disk :=
  ⟨sampleTree registry flow, ⟨"/", [(⟨1, ["t.yaml"]⟩, ⟨1, ["tables", "t.yaml"]⟩)]⟩, 0, .none⟩

def sampleDesk : Desk := ⟨sampleDisk (fileOf sampleRegistry.toJson.write) (fileOf sampleFlow.write), []⟩

theorem finished_sample {registry flow : Bytes} (registryText : Utf8.encode sampleRegistry.toJson.write = .ok registry)
    (flowText : Utf8.encode sampleFlow.write = .ok flow) : ∃ fields contents key,
    Finished sampleLayout (sampleDisk registry flow) [smallPath] [small] sampleRegistry fields contents key := by
  have built : Registry.build [small] = .ok sampleRegistry := Registry.build_eq_ok_iff.mpr ⟨by decide, rfl⟩
  have filled : sampleRegistry ≠ [] := by decide
  have returns : (Projection.project sampleRegistry [small] none bareFlow).outcome.toOption.isSome := by decide +kernel
  have clean : Contract.violations [small] sampleRegistry.toJson.canonical sampleFlow.canonical = .ok [] := by decide +kernel
  obtain ⟨projected, projects⟩ := eq_ok_of_isSome returns
  have same : sampleFlow = projected.flow := by
    unfold sampleFlow
    rw [projects]
    rfl
  have storable := Projection.storable_of_project filled ⟨by decide, by decide⟩ projects
  obtain ⟨contents, given, settled⟩ := Contract.settled_of_project built filled projects
  obtain ⟨fields, inner, form, stored, canonical, sameText, there, settled⟩ := exists_canonical_flow storable given settled
  rw [same, form] at clean
  rw [same, ← sameText] at flowText
  refine ⟨fields, inner, projected.sqlId, ?_⟩
  exact {
    present := List.cons_ne_nil _ _
    listed := rfl
    others := List.forall_mem_singleton.mpr (by simp)
    apart := by decide
    loads := .cons (Spec.read_eq_ok_iff.mpr ⟨rfl, smallFile, rfl, Spec.Sample.ofBytes_small⟩) .nil
    distinct := by decide
    built := built
    registryText := Artifacts.isCurrent_eq_ok_iff.mpr ⟨rfl, registry, rfl, Content.text_of_encode registryText⟩
    flowText := Artifacts.isCurrent_eq_ok_iff.mpr ⟨rfl, flow, rfl, Content.text_of_encode flowText⟩
    storable := stored
    canonical := canonical
    given := there
    settled := settled
    clean := clean }

end Sample

end Project

end ChangeCapture
