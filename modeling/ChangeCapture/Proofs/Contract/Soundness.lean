import ChangeCapture.Proofs.Contract.Agreement
import ChangeCapture.Proofs.Spec.Sample

namespace ChangeCapture.Contract

variable {specs : List Spec} {registry contents : Fields}

-- Every value of the registry is an entry of some specification's table, with the
-- query that this specification asks for.
def QueriesHold (specs : List Spec) (registry : Fields) : Prop :=
  ∀ field ∈ registry, ∃ entry, entryOf field.2 = .ok entry ∧
    ∃ spec ∈ specs, spec.tableName = entry.table ∧ Ordering.isBy entry.sql spec.table.watermark ∧
      Text.occurrences (placeholder rangeFrom) entry.sql = 1 ∧ Text.occurrences (placeholder rangeTo) entry.sql = 1 ∧
      entry.watermark = spec.table.watermark

-- The keys of the registry's name space that the look-up service has are the keys of
-- the registry, each with the registry's query.
def LookupHolds (registry contents : Fields) : Prop :=
  ∃ service, partIn (contents.lookup ("controllerServices" : Text)) FlowTemplate.lookupService = some service ∧
    (∀ key, SqlId.isShaped key ∧ key ∈ (Part.properties service).map Prod.fst ↔ key ∈ registry.map Prod.fst) ∧
    ∀ field ∈ registry, ∃ entry, entryOf field.2 = .ok entry ∧
      (Part.properties service).lookup field.1 = some (.text entry.sql)

def EdgesHold (contents : Fields) : Prop :=
  ∃ connections, contents.lookup ("connections" : Text) = some (.list connections) ∧
    (connections.map Part.edge?).Perm (FlowTemplate.edges.map some)

-- The flow is bound to a key of the registry, reads by the watermark of that key's
-- table, and writes upserts under its primary key.
def BindingHolds (specs : List Spec) (registry contents : Fields) : Prop :=
  let property (processor name : Text) :=
    valueOf (propertiesIn (contents.lookup ("processors" : Text)) processor) name
  ∃ key data entry, property FlowTemplate.binding FlowTemplate.sqlIdProperty = .text key ∧
    registry.lookup key = some data ∧ entryOf data = .ok entry ∧
    (∃ spec ∈ specs, spec.tableName = entry.table) ∧
    (∀ spec ∈ specs, spec.tableName = entry.table →
      property FlowTemplate.reader FlowTemplate.watermarkProperty = .text spec.table.watermark ∧
      property FlowTemplate.binding FlowTemplate.idFieldProperty = .text spec.table.primaryKey) ∧
    property FlowTemplate.sink FlowTemplate.operationProperty = .text FlowTemplate.upsert

theorem Agreement.queries (agreement : Agreement (Projection.byTable specs) registry contents) :
    QueriesHold specs registry := by
  intro field member
  obtain ⟨entry, spec, read, found, good⟩ := agreement.entries field member
  obtain ⟨listed, name⟩ := Projection.spec_of_lookup found
  exact ⟨entry, read, spec, listed, name, good.ordered, good.rangeFrom, good.rangeTo, good.watermark⟩

theorem Agreement.lookupHolds (agreement : Agreement (Projection.byTable specs) registry contents) :
    LookupHolds registry contents := by
  obtain ⟨service, found, held, only⟩ := agreement.lookup
  refine ⟨service, found, fun key => ⟨fun ⟨shaped, there⟩ => only key there shaped, fun member => ?_⟩, held⟩
  obtain ⟨field, present, rfl⟩ := List.mem_map.mp member
  obtain ⟨entry, spec, -, -, good⟩ := agreement.entries field present
  obtain ⟨_, -, there⟩ := held field present
  exact ⟨SqlId.isShaped_of_parse? good.names, lookup_isSome_iff_mem.mp (by simp [there])⟩

theorem Agreement.edges (agreement : Agreement (Projection.byTable specs) registry contents) : EdgesHold contents := by
  have perm := agreement.connections
  cases there : contents.lookup ("connections" : Text) with
  | none =>
    rw [there] at perm
    exact absurd perm.length_eq (by decide)
  | some value =>
    cases value with
    | list connections =>
      rw [there] at perm
      exact ⟨connections, there, perm⟩
    | null | bool | int | double | text | object =>
      rw [there] at perm
      exact absurd perm.length_eq (by simp [Part.items, FlowTemplate.edges])

theorem Agreement.bindingHolds (distinct : (specs.map Spec.tableName).Nodup)
    (agreement : Agreement (Projection.byTable specs) registry contents) : BindingHolds specs registry contents := by
  obtain ⟨key, data, entry, spec, bound, there, read, found, column, idField, operation⟩ := agreement.binding
  obtain ⟨listed, name⟩ := Projection.spec_of_lookup found
  refine ⟨key, data, entry, bound, there, read, ⟨spec, listed, name⟩, fun other member same => ?_, operation⟩
  have equal : other = spec := List.inj_on_of_nodup_map distinct member listed (same.trans name.symm)
  exact equal ▸ ⟨column, idField⟩

-- Registry and flow may be any documents: whatever a check passes over, another one
-- reports.
theorem sound_of_no_violation {document flow : Json} (distinct : (specs.map Spec.tableName).Nodup)
    (verified : violations specs document flow = .ok []) :
    ∃ registry contents, document = .object registry ∧ flow.field? "flowContents" = some (.object contents) ∧
      QueriesHold specs registry ∧ LookupHolds registry contents ∧ EdgesHold contents ∧
      BindingHolds specs registry contents := by
  obtain ⟨registry, contents, isRegistry, isContents, agreement⟩ := violations_eq_nil_iff.mp verified
  exact ⟨registry, contents, isRegistry, isContents, agreement.queries, agreement.lookupHolds, agreement.edges,
    agreement.bindingHolds distinct⟩

theorem sound_of_sample : ∃ document flow, violations [Spec.Sample.orders, Spec.Sample.items] document flow = .ok [] ∧
    ∃ registry contents, document = .object registry ∧ flow.field? "flowContents" = some (.object contents) ∧
      QueriesHold [Spec.Sample.orders, Spec.Sample.items] registry ∧ LookupHolds registry contents ∧ EdgesHold contents ∧
      BindingHolds [Spec.Sample.orders, Spec.Sample.items] registry contents := by
  let registry := ((Registry.build [Spec.Sample.orders, Spec.Sample.items]).toOption).getD []
  let flow := ((Projection.project registry [Spec.Sample.orders, Spec.Sample.items] none .null).outcome.toOption.map
    Projected.flow).getD .null
  have distinct : ([Spec.Sample.orders, Spec.Sample.items].map Spec.tableName).Nodup := by decide
  have verified : violations [Spec.Sample.orders, Spec.Sample.items] registry.toJson flow = .ok [] := by decide +kernel
  exact ⟨registry.toJson, flow, verified, sound_of_no_violation distinct verified⟩

end ChangeCapture.Contract
