import ChangeCapture.Proofs.Contract.Soundness
import ChangeCapture.Proofs.Contract.Projection
import ChangeCapture.Proofs.Flow.Index

namespace ChangeCapture.Contract

open Projection (byTable HasProperty HasProcessors SettledButIndex IsIndexRepair)

-- What a flow that passes the verifier is to the projector. The verifier passes over
-- processors that are no objects, the projector does not.

variable {specs : List Spec} {registry : Registry} {contents : Fields} {items : List Json} {id name value : Text}

theorem list_of_partIn {parts : Option Json} {part : Fields} (found : partIn parts id = some part) :
    ∃ items, parts = some (.list items) := by
  rcases parts with - | parts
  · cases found
  · cases parts with
    | list items => exact ⟨items, rfl⟩
    | null | bool | int | double | text | object => cases found

theorem hasProperty_of_valueOf (held : valueOf (propertiesIn (some (.list items)) id) name = .text value) :
    HasProperty items id name value := by
  unfold valueOf propertiesIn partIn at held
  cases found : Part.find? items id with
  | none => simp [Part.items, found] at held
  | some fields =>
    simp only [Part.items, found, Option.map_some, Option.getD_some] at held
    cases given : fields.lookup ("properties" : Text) with
    | none => simp [Part.properties, given] at held
    | some own =>
      cases own with
      | object properties =>
        rw [Projection.properties_of_lookup given] at held
        cases there : properties.lookup name with
        | none => simp [there] at held
        | some set =>
          simp only [there, Option.getD_some] at held
          exact ⟨fields, properties, found, given, held ▸ there⟩
      | null | bool | int | double | text | list => simp [Part.properties, given] at held

theorem id?_of_getD {item : Json} (named : (Part.id? item).getD .null = .text id) : Part.id? item = some (.text id) := by
  cases own : Part.id? item with
  | none => simp [own] at named
  | some found => simpa [own] using named

theorem hasProcessors_of_ids (objects : ∀ item ∈ items, item.isObject)
    (ids : (idsOf items).Perm (FlowTemplate.processorIds.map .text)) : HasProcessors items := by
  have all : items.filter Json.isObject = items := List.filter_eq_self.mpr objects
  rw [idsOf, all] at ids
  have each : items.map Part.id? = (items.map fun item => (Part.id? item).getD .null).map some := by
    rw [List.map_map]
    refine List.map_congr_left fun item member => ?_
    obtain ⟨id, -, same⟩ := List.mem_map.mp (ids.mem_iff.mp (List.mem_map_of_mem member))
    have named := id?_of_getD same.symm
    simp [named]
  rw [HasProcessors, each]
  simpa [List.map_map, Function.comp_def] using ids.map some

theorem checkProcessors_of_foreign {seen ids : List Text} (read : idsOf items = ids.map .text)
    (known : ∀ id ∈ ids, id ∈ FlowTemplate.processorIds) (fresh : Projection.Fresh seen ids)
    (foreign : ∃ item ∈ items, ¬ item.isObject) :
    Projection.checkProcessors seen items = .error (.foreignProcessor .null) := by
  induction items generalizing seen ids with
  | nil =>
    obtain ⟨item, member, -⟩ := foreign
    cases member
  | cons item rest ih =>
    by_cases object : item.isObject
    · obtain ⟨other, member, none⟩ := foreign
      have later : ∃ item ∈ rest, ¬ item.isObject := by
        rcases List.mem_cons.mp member with rfl | member
        · exact absurd object none
        · exact ⟨other, member, none⟩
      cases ids with
      | nil => simp [idsOf, object] at read
      | cons id ids =>
        simp only [idsOf, List.filter_cons, object, if_true, List.map_cons, List.cons.injEq] at read
        obtain ⟨isKnown, known⟩ := List.forall_mem_cons.mp known
        obtain ⟨unseen, fresh⟩ := Projection.fresh_cons_iff.mp fresh
        have passes := ih read.2 known fresh later
        simp [Projection.checkProcessors, id?_of_getD read.1, isKnown, unseen, passes]
    · have unnamed : Part.id? item = none := by
        cases item with
        | object fields => exact absurd rfl object
        | null | bool | int | double | text | list => rfl
      simp [Projection.checkProcessors, unnamed]

theorem Agreement.processorList {fields : Fields} (agreement : Agreement (byTable specs) fields contents) :
    ∃ processors, contents.lookup ("processors" : Text) = some (.list processors) := by
  obtain ⟨_, _, _, _, bound, -⟩ := agreement.binding
  cases found : partIn (contents.lookup ("processors" : Text)) FlowTemplate.binding with
  | some fields => exact list_of_partIn found
  | none => simp [propertiesIn, found, valueOf] at bound

theorem hasQueries_of_lookupAgrees (agrees : LookupAgrees (documentFields registry) contents) :
    ∃ services service, contents.lookup ("controllerServices" : Text) = some (.list services) ∧
      Part.find? services FlowTemplate.lookupService = some service ∧
      Projection.HasQueries registry (Part.properties service) := by
  obtain ⟨service, found, queries, only⟩ := agrees
  obtain ⟨services, listed⟩ := list_of_partIn found
  rw [listed] at found
  refine ⟨services, service, listed, found, fun key entry there => ?_, fun key member shaped => ?_⟩
  · obtain ⟨entry', read, held⟩ := queries (key, .object entry.toFields)
      (List.mem_map.mpr ⟨(key, entry), mem_of_lookup there, rfl⟩)
    cases (entryOf_toFields entry).symm.trans read
    exact held
  · rw [← keys_documentFields]
    exact only key member shaped

-- What the verifier does not look at is left open: the index, and list items that are
-- no objects.
theorem Agreement.settledButIndex (agreement : Agreement (byTable specs) (documentFields registry) contents)
    {processors : List Json} (listed : contents.lookup ("processors" : Text) = some (.list processors))
    (objects : ∀ processor ∈ processors, processor.isObject) : ∃ key, SettledButIndex registry specs key contents := by
  obtain ⟨key, data, entry, spec, bound, there, read, ofTable, column, idField, operation⟩ := agreement.binding
  obtain ⟨services, service, listedServices, found, queries⟩ := hasQueries_of_lookupAgrees agreement.lookup
  obtain ⟨_, other, again, otherTable, agrees⟩ := agreement.entries _ (mem_of_lookup there)
  cases read.symm.trans again
  cases ofTable.symm.trans otherTable
  rw [lookup_documentFields, Option.map_eq_some_iff] at there
  obtain ⟨own, lookedUp, rfl⟩ := there
  cases (entryOf_toFields own).symm.trans read
  rw [listed] at bound column idField operation
  have chain := agreement.processors
  rw [listed] at chain
  have complete := agreement.services
  rw [listedServices] at complete
  refine ⟨key, ⟨processors, listed, hasProcessors_of_ids objects chain, entry, spec, lookedUp, ofTable, ?_⟩, agreement.edges,
    services, service, listedServices, complete, found, queries⟩
  exact ⟨hasProperty_of_valueOf bound, hasProperty_of_valueOf idField,
    hasProperty_of_valueOf (agrees.watermark ▸ column), hasProperty_of_valueOf operation⟩

theorem outcome_of_foreign {fields : Fields} (agreement : Agreement (byTable specs) fields contents) {processors : List Json}
    (listed : contents.lookup ("processors" : Text) = some (.list processors))
    (foreign : ∃ processor ∈ processors, ¬ processor.isObject) (target : Option Text) {flow : Json}
    (given : flow.field? "flowContents" = some (.object contents)) :
    (Projection.project registry specs target flow).outcome = .error (.drift (.foreignProcessor .null)) := by
  have chain := agreement.processors
  rw [listed, Part.items] at chain
  obtain ⟨ids, read, perm⟩ := Projection.exists_map_of_perm chain
  have distinct : FlowTemplate.processorIds.Nodup := by decide
  have stops := checkProcessors_of_foreign read (fun id member => perm.mem_iff.mp member)
    ⟨fun _ _ => List.not_mem_nil, perm.nodup_iff.mpr distinct⟩ foreign
  obtain ⟨_, same⟩ := Projection.project_of_contents registry specs target given
  rw [same]
  refine Repaired.bind_of_error (Repaired.bind_of_error ?_)
  cases processors with
  | nil =>
    obtain ⟨processor, member, -⟩ := foreign
    cases member
  | cons first rest =>
    simp [Projection.syncTopology, listed, Projection.isAbsent, Json.isEmptyLike, stops, Projection.drifted]

-- A flow that passes the verifier projects, and takes no repair but that of its
-- index, unless one of its processors is no object: that stops the projection.
theorem projects_of_no_violation (present : specs ≠ []) (accepted : ∀ spec ∈ specs, spec.Accepted)
    (distinct : (specs.map Spec.tableName).Nodup) (target : Option Text) :
    ∃ registry projector, Registry.build specs = .ok registry ∧ Projector.make registry specs target = some projector ∧
      ∀ flow, violations specs registry.toJson flow = .ok [] → ∃ contents processors,
        flow.field? "flowContents" = some (.object contents) ∧
        contents.lookup ("processors" : Text) = some (.list processors) ∧
        ((∀ processor ∈ processors, processor.isObject) → ∃ projected, (projector.run flow).1 = .ok projected ∧
          ∀ repair ∈ (projector.run flow).2.repairs, IsIndexRepair repair) ∧
        ((∃ processor ∈ processors, ¬ processor.isObject) →
          (projector.run flow).1 = .error (.drift (.foreignProcessor .null))) := by
  have valid : ∀ spec ∈ specs, spec.Valid := fun spec member => (accepted spec member).valid
  obtain ⟨registry, built⟩ := Registry.build_of_distinct valid distinct
  have filled := registry_ne_nil present valid built
  refine ⟨registry, ⟨registry, specs, (target.filter fun name => !name.isEmpty).map Text.upper, []⟩, built,
    by simp [Projector.make, filled], fun flow clean => ?_⟩
  obtain ⟨fields, contents, same, given, agreement⟩ := violations_eq_nil_iff.mp clean
  rw [toJson_of_build built] at same
  cases same
  obtain ⟨processors, listed⟩ := agreement.processorList
  refine ⟨contents, processors, given, listed, fun objects => ?_, fun foreign => ?_⟩
  · obtain ⟨key, settled⟩ := agreement.settledButIndex listed objects
    obtain ⟨projected, projects⟩ := Projection.yields_project (Registry.keys_of_build built) _ given settled
    exact ⟨projected, projects.outcome, projects.repairs⟩
  · exact outcome_of_foreign agreement listed foreign _ given

theorem projects_of_sample : ∃ registry projector flow projected,
    Registry.build [Spec.Sample.orders, Spec.Sample.items] = .ok registry ∧
      Projector.make registry [Spec.Sample.orders, Spec.Sample.items] none = some projector ∧
      violations [Spec.Sample.orders, Spec.Sample.items] registry.toJson flow = .ok [] ∧
      (projector.run flow).1 = .ok projected ∧ ∀ repair ∈ (projector.run flow).2.repairs, IsIndexRepair repair := by
  have accepted : ∀ spec ∈ [Spec.Sample.orders, Spec.Sample.items], spec.Accepted := by
    simpa using ⟨Spec.Sample.orders_accepted, Spec.Sample.items_accepted⟩
  have distinct : ([Spec.Sample.orders, Spec.Sample.items].map Spec.tableName).Nodup := by decide
  let moved : Spec := { Spec.Sample.orders with destination := ⟨"moved", "Id", none⟩ }
  let flow := ((Registry.build [moved, Spec.Sample.items]).toOption.bind fun registry =>
    (Projection.project registry [moved, Spec.Sample.items] none .null).outcome.toOption.map Projected.flow).getD .null
  obtain ⟨registry, projector, built, made, projects⟩ :=
    projects_of_no_violation (List.cons_ne_nil _ _) accepted distinct none
  have verified : (Registry.build [Spec.Sample.orders, Spec.Sample.items]).toOption.any fun registry =>
      violations [Spec.Sample.orders, Spec.Sample.items] registry.toJson flow = .ok [] := by decide +kernel
  obtain ⟨other, same, clean⟩ := eq_ok_of_any verified
  cases built.symm.trans same
  rw [decide_eq_true_eq] at clean
  obtain ⟨contents, processors, given, listed, returns, -⟩ := projects flow clean
  have objects : (flow.field? "flowContents").any fun contents =>
      (Part.items (contents.field? "processors")).all Json.isObject := by decide +kernel
  rw [given, Option.any_some, Json.field?, listed] at objects
  obtain ⟨projected, run, repairs⟩ := returns (List.all_eq_true.mp objects)
  exact ⟨registry, projector, flow, projected, built, made, clean, run, repairs⟩

def nullBefore (name : Text) : Json → Json
  | .object fields => .object (Fields.put name (.list (.null :: Part.items (fields.lookup name))) fields)
  | other => other

-- A null among the processors of a flow is passed over by the verifier, and no
-- projection comes to an end.
theorem verified_and_stopped : Spec.Sample.small.Accepted ∧ ∃ registry projector flow,
    Registry.build [Spec.Sample.small] = .ok registry ∧ Projector.make registry [Spec.Sample.small] none = some projector ∧
      violations [Spec.Sample.small] registry.toJson flow = .ok [] ∧ ∀ projected, (projector.run flow).1 ≠ .ok projected := by
  let registry : Registry := [Registry.item Spec.Sample.small "5m"]
  let made := ((Projection.project registry [Spec.Sample.small] none .null).outcome.toOption.map Projected.flow).getD .null
  let flow : Json := .object [("flowContents", nullBefore "processors" ((made.field? "flowContents").getD .null))]
  have built : Registry.build [Spec.Sample.small] = .ok registry := eq_ok_of_toOption (by decide +kernel)
  have stopped : (Projector.run ⟨registry, [Spec.Sample.small], none, []⟩ flow).1.toOption.isNone := by decide +kernel
  refine ⟨Spec.Sample.small_accepted, registry, ⟨registry, [Spec.Sample.small], none, []⟩, flow, built, rfl, by decide +kernel,
    fun projected run => ?_⟩
  rw [run] at stopped
  cases stopped

end ChangeCapture.Contract
