import ChangeCapture.Proofs.Contract.Agreement
import ChangeCapture.Proofs.Flow.Settled
import ChangeCapture.Proofs.Spec.Sample

namespace ChangeCapture.Contract

open Projection (byTable Settled HasProperty)

variable {specs : List Spec} {registry : Registry} {contents : Fields} {key : Text}

def documentFields (registry : Registry) : Fields := registry.map fun item => (item.1, .object item.2.toFields)

theorem entryOf_toFields (entry : Entry) : entryOf (.object entry.toFields) = .ok entry := rfl

theorem keys_documentFields (registry : Registry) : (documentFields registry).map Prod.fst = registry.map Prod.fst := by
  simp [documentFields]

theorem lookup_documentFields (registry : Registry) (key : Text) :
    (documentFields registry).lookup key = (registry.lookup key).map fun entry => .object entry.toFields := by
  induction registry with
  | nil => rfl
  | cons item rest ih =>
    rcases item with ⟨name, entry⟩
    simp only [documentFields, List.map_cons, List.lookup_cons] at ih ⊢
    split
    · rfl
    · exact ih

theorem toJson_of_build (built : Registry.build specs = .ok registry) : registry.toJson = .object (documentFields registry) := by
  rw [Registry.toJson, Registry.sorted_of_build built, documentFields]

theorem known_of_build (built : Registry.build specs = .ok registry) : Projection.Known registry specs := by
  intro key entry found
  obtain ⟨spec, listed, window, -, same⟩ := (Registry.mem_of_build built).mp (mem_of_lookup found)
  cases same
  exact Projection.exists_lookup_of_spec listed

theorem entryAgrees_item {spec : Spec} (valid : spec.Valid) (oneLine : Registry.OneLine spec) {window : Text}
    (member : window ∈ spec.windows.options) :
    EntryAgrees spec (Registry.item spec window).1 (Registry.item spec window).2 where
  names := Registry.parse?_item valid oneLine member
  window := member
  ordered := Query.isBy_render valid
  rangeFrom := Query.rangeFrom_render valid
  rangeTo := Query.rangeTo_render valid
  watermark := rfl

theorem valueOf_of_hasProperty {processors : List Json} {id name value : Text} (held : HasProperty processors id name value) :
    valueOf (propertiesIn (some (.list processors)) id) name = .text value := by
  obtain ⟨fields, properties, found, given, there⟩ := held
  simp [valueOf, propertiesIn, partIn, Part.items, found, Projection.properties_of_lookup given, there]

theorem idsOf_of_hasProcessors {processors : List Json} (held : Projection.HasProcessors processors) :
    (idsOf processors).Perm (FlowTemplate.processorIds.map .text) := by
  obtain ⟨ids, same, perm⟩ := Projection.exists_map_of_perm held
  have read : idsOf processors = ids.map .text := by
    clear held perm
    induction processors generalizing ids with
    | nil =>
      cases ids with
      | nil => rfl
      | cons id ids => cases same
    | cons processor rest ih =>
      cases ids with
      | nil => cases same
      | cons id ids =>
        simp only [List.map_cons, List.cons.injEq] at same
        have later := ih ids same.2
        have isObject : processor.isObject := by
          cases processor <;> simp_all [Part.id?, Json.isObject]
        simp only [idsOf, List.filter_cons, isObject, if_true, List.map_cons, same.1, Option.getD_some] at later ⊢
        rw [later]
  rw [read]
  exact perm.map _

theorem covered_of_build (built : Registry.build specs = .ok registry) : ∀ item ∈ byTable specs,
    ∀ window ∈ item.2.windows.options, SqlId.make item.1 window ∈ (documentFields registry).map Prod.fst := by
  intro item member window present
  obtain ⟨here, name⟩ := Projection.spec_of_lookup (Projection.mem_byTable.mp member)
  rw [keys_documentFields, List.mem_map]
  refine ⟨Registry.item item.2 window, (Registry.mem_of_build built).mpr ⟨item.2, here, window, present, rfl⟩, ?_⟩
  rw [Registry.item, name]

theorem entries_of_build (valid : ∀ spec ∈ specs, spec.Valid) (oneLine : ∀ spec ∈ specs, Registry.OneLine spec)
    (distinct : (specs.map Spec.tableName).Nodup) (built : Registry.build specs = .ok registry) :
    ∀ field ∈ documentFields registry, ∃ entry spec, entryOf field.2 = .ok entry ∧
      (byTable specs).lookup entry.table = some spec ∧ EntryAgrees spec field.1 entry := by
  intro field member
  obtain ⟨item, present, rfl⟩ := List.mem_map.mp member
  obtain ⟨spec, here, window, option, rfl⟩ := (Registry.mem_of_build built).mp present
  exact ⟨_, spec, entryOf_toFields _, Projection.lookup_of_spec distinct here,
    entryAgrees_item (valid spec here) (oneLine spec here) option⟩

theorem lookupAgrees_of_settled (keys : (registry.map Prod.fst).Nodup) (settled : Settled registry specs key contents) :
    LookupAgrees (documentFields registry) contents := by
  obtain ⟨services, service, properties, listed, complete, found, given, held⟩ := settled.services
  have same := Projection.properties_of_lookup given
  refine ⟨service, ?_, ?_, ?_⟩
  · rw [listed]
    exact found
  · intro field member
    obtain ⟨item, present, rfl⟩ := List.mem_map.mp member
    refine ⟨item.2, entryOf_toFields _, ?_⟩
    rw [same]
    exact held.queries _ _ (lookup_of_mem keys present)
  · rw [same, keys_documentFields]
    exact held.others

theorem bindingAgrees_of_settled (distinct : (specs.map Spec.tableName).Nodup) (built : Registry.build specs = .ok registry)
    (settled : Settled registry specs key contents) : BindingAgrees (byTable specs) (documentFields registry) contents := by
  obtain ⟨processors, listed, chain, entry, spec, there, ofTable, bound⟩ := settled.processors
  obtain ⟨own, here, window, option, same⟩ := (Registry.mem_of_build built).mp (mem_of_lookup there)
  have ofOwn : entry.table = own.tableName ∧ entry.watermark = own.table.watermark := by
    cases same
    exact ⟨rfl, rfl⟩
  have equal : spec = own := by
    rw [ofOwn.1, Projection.lookup_of_spec distinct here] at ofTable
    exact (Option.some.inj ofTable).symm
  unfold BindingAgrees
  rw [listed]
  refine ⟨key, .object entry.toFields, entry, spec, valueOf_of_hasProperty bound.key, ?_, entryOf_toFields entry, ofTable, ?_,
    valueOf_of_hasProperty bound.idField, valueOf_of_hasProperty bound.operation⟩
  · rw [lookup_documentFields, there]
    rfl
  · rw [equal, ← ofOwn.2]
    exact valueOf_of_hasProperty bound.watermark

-- Settled contents and the registry that they were settled by agree with the
-- specifications.
theorem agreement_of_settled (valid : ∀ spec ∈ specs, spec.Valid) (oneLine : ∀ spec ∈ specs, Registry.OneLine spec)
    (distinct : (specs.map Spec.tableName).Nodup) (built : Registry.build specs = .ok registry)
    (settled : Settled registry specs key contents) : Agreement (byTable specs) (documentFields registry) contents where
  covered := covered_of_build built
  entries := entries_of_build valid oneLine distinct built
  lookup := lookupAgrees_of_settled (Registry.keys_of_build built) settled
  processors := by
    obtain ⟨processors, listed, chain, -⟩ := settled.processors
    rw [listed]
    exact idsOf_of_hasProcessors chain
  connections := by
    obtain ⟨connections, listed, links⟩ := settled.connections
    rw [listed]
    exact links
  services := by
    intro id member
    obtain ⟨services, -, -, listed, complete, -⟩ := settled.services
    rw [listed]
    exact complete id member
  binding := bindingAgrees_of_settled distinct built settled

theorem settled_of_project (built : Registry.build specs = .ok registry) (present : registry ≠ []) {target : Option Text}
    {flow : Json} {projected : Projected}
    (projects : (Projection.project registry specs target flow).outcome = .ok projected) :
    ∃ contents, projected.flow.field? "flowContents" = some (.object contents) ∧
      Settled registry specs projected.sqlId contents := by
  obtain ⟨contents, given, steady⟩ := Projection.steady_of_project present (Registry.keys_of_build built) projects
  exact ⟨contents, given, steady.settled (known_of_build built _)⟩

theorem registry_ne_nil (present : specs ≠ []) (valid : ∀ spec ∈ specs, spec.Valid)
    (built : Registry.build specs = .ok registry) : registry ≠ [] := by
  obtain ⟨spec, rest, rfl⟩ := List.exists_cons_of_ne_nil present
  obtain ⟨window, later, same⟩ := List.exists_cons_of_ne_nil (valid spec (List.mem_cons_self ..)).windows
  have member := (Registry.mem_of_build built).mpr
    ⟨spec, List.mem_cons_self .., window, by simp [same], rfl⟩
  exact List.ne_nil_of_mem member

-- Whatever a projection is given, what it makes of it agrees with the registry and
-- the specifications. A registry and a projector are there to be had.
theorem no_violation_of_projection (present : specs ≠ []) (accepted : ∀ spec ∈ specs, spec.Accepted)
    (oneLine : ∀ spec ∈ specs, Registry.OneLine spec) (distinct : (specs.map Spec.tableName).Nodup)
    (target : Option Text) :
    ∃ registry projector, Registry.build specs = .ok registry ∧ Projector.make registry specs target = some projector ∧
      ∀ flow projected, (projector.run flow).1 = .ok projected →
        violations specs registry.toJson projected.flow = .ok [] := by
  have valid : ∀ spec ∈ specs, spec.Valid := fun spec member => (accepted spec member).valid
  obtain ⟨registry, built⟩ := Registry.build_of_distinct valid distinct
  have filled := registry_ne_nil present valid built
  refine ⟨registry, ⟨registry, specs, (target.filter fun name => !name.isEmpty).map Text.upper, []⟩, built, ?_, ?_⟩
  · simp [Projector.make, filled]
  · intro flow projected projects
    obtain ⟨contents, given, settled⟩ := settled_of_project built filled projects
    exact violations_eq_nil_iff.mpr ⟨_, contents, toJson_of_build built, given,
      agreement_of_settled valid oneLine distinct built settled⟩

theorem no_violation_of_sample : ∃ registry projector projected,
    Registry.build [Spec.Sample.orders, Spec.Sample.items] = .ok registry ∧
      Projector.make registry [Spec.Sample.orders, Spec.Sample.items] (some "order") = some projector ∧
      (projector.run .null).1 = .ok projected ∧
      violations [Spec.Sample.orders, Spec.Sample.items] registry.toJson projected.flow = .ok [] := by
  have accepted : ∀ spec ∈ [Spec.Sample.orders, Spec.Sample.items], spec.Accepted := by
    simpa using ⟨Spec.Sample.orders_accepted, Spec.Sample.items_accepted⟩
  have oneLine : ∀ spec ∈ [Spec.Sample.orders, Spec.Sample.items], Registry.OneLine spec := by
    simpa using ⟨⟨by decide, by decide⟩, ⟨by decide, by decide⟩⟩
  have distinct : ([Spec.Sample.orders, Spec.Sample.items].map Spec.tableName).Nodup := by decide
  obtain ⟨registry, projector, built, made, clean⟩ :=
    no_violation_of_projection (List.cons_ne_nil _ _) accepted oneLine distinct (some "order")
  have returns : ((Registry.build [Spec.Sample.orders, Spec.Sample.items]).toOption.bind fun registry =>
      (Projector.make registry [Spec.Sample.orders, Spec.Sample.items] (some "order")).bind fun projector =>
        (projector.run .null).1.toOption).isSome := by decide +kernel
  simp only [built, made, Except.toOption, Option.bind_some] at returns
  cases run : (projector.run .null).1 with
  | error stop => simp [run] at returns
  | ok projected => exact ⟨registry, projector, projected, built, made, run, clean .null projected run⟩

end ChangeCapture.Contract
