import ChangeCapture.Proofs.Contract.Projection

namespace ChangeCapture.Contract

open Projection (byTable IsLast HasProperty)

variable {specs : List Spec} {spec : Spec} {registry : Registry} {contents : Fields} {key : Text}

def property? (flow : Json) (processor name : Text) : Option Json := do
  let contents ← flow.field? "flowContents"
  let processors ← contents.field? "processors"
  let fields ← Part.find? (Part.items (some processors)) processor
  (Part.properties fields).lookup name

def MadeFor (registry : Registry) (key : Text) (spec : Spec) : Prop :=
  ∃ window ∈ spec.windows.options, ∃ entry, registry.lookup key = some entry ∧ key = SqlId.make spec.tableName window ∧
    entry.window = window ∧ Query.renderWindow spec window = .ok entry.sql

theorem property?_of_hasProperty {flow : Json} {processors : List Json} {id name value : Text}
    (given : flow.field? "flowContents" = some (.object contents))
    (listed : contents.lookup ("processors" : Text) = some (.list processors)) (held : HasProperty processors id name value) :
    property? flow id name = some (.text value) := by
  obtain ⟨fields, properties, found, own, there⟩ := held
  have processor : (Json.object contents).field? "processors" = some (.list processors) := listed
  simp [property?, given, processor, Part.items, found, Projection.properties_of_lookup own, there]

theorem madeFor_of_build (built : Registry.build specs = .ok registry) {entry : Entry}
    (found : registry.lookup key = some entry) : ∃ spec ∈ specs, MadeFor registry key spec ∧
      entry.table = spec.tableName ∧ entry.watermark = spec.table.watermark := by
  obtain ⟨spec, listed, window, option, same⟩ := (Registry.mem_of_build built).mp (mem_of_lookup found)
  cases same
  exact ⟨spec, listed, ⟨window, option, _, found, rfl, rfl, Query.renderWindow_eq_ok option⟩, rfl, rfl⟩

-- The query and the watermark that a projected flow reads by are of one specification.
-- Index and key are of the last one for its table, which may be another only where
-- the table was specified more than once.
theorem origin_of_projection (present : specs ≠ []) (accepted : ∀ spec ∈ specs, spec.Accepted)
    (built : Registry.build specs = .ok registry) (target : Option Text) :
    ∃ projector, Projector.make registry specs target = some projector ∧
      ∀ flow projected, (projector.run flow).1 = .ok projected → ∃ spec ∈ specs, ∃ last,
        MadeFor registry projected.sqlId spec ∧ IsLast specs last ∧ last.tableName = spec.tableName ∧
        property? projected.flow FlowTemplate.binding FlowTemplate.sqlIdProperty = some (.text projected.sqlId) ∧
        property? projected.flow FlowTemplate.reader FlowTemplate.watermarkProperty = some (.text spec.table.watermark) ∧
        property? projected.flow FlowTemplate.binding FlowTemplate.indexProperty = some (.text last.destination.index) ∧
        property? projected.flow FlowTemplate.binding FlowTemplate.idFieldProperty = some (.text last.table.primaryKey) ∧
        ((∀ other ∈ specs, other.tableName = spec.tableName → other = spec) → last = spec) := by
  have valid : ∀ spec ∈ specs, spec.Valid := fun spec member => (accepted spec member).valid
  have filled := registry_ne_nil present valid built
  refine ⟨⟨registry, specs, (target.filter fun name => !name.isEmpty).map Text.upper, []⟩, by simp [Projector.make, filled], ?_⟩
  intro flow projected projects
  obtain ⟨contents, given, settled⟩ := settled_of_project built filled projects
  obtain ⟨processors, listed, -, entry, last, there, ofTable, bound⟩ := settled.processors
  obtain ⟨spec, member, made, table, watermark⟩ := madeFor_of_build built there
  obtain ⟨isLast, name⟩ := Projection.lookup_eq_some_iff.mp ofTable
  obtain ⟨lastMember, -⟩ := Projection.spec_of_lookup ofTable
  have sameTable : last.tableName = spec.tableName := name.trans table
  refine ⟨spec, member, last, made, isLast, sameTable, property?_of_hasProperty given listed bound.key, ?_,
    property?_of_hasProperty given listed bound.index, property?_of_hasProperty given listed bound.idField,
    fun sole => sole last lastMember sameTable⟩
  rw [← watermark]
  exact property?_of_hasProperty given listed bound.watermark

theorem origin_of_sample : ∃ registry projector projected,
    Registry.build [Spec.Sample.orders, Spec.Sample.items] = .ok registry ∧
      Projector.make registry [Spec.Sample.orders, Spec.Sample.items] none = some projector ∧
      (projector.run .null).1 = .ok projected ∧ ∃ spec ∈ [Spec.Sample.orders, Spec.Sample.items],
        MadeFor registry projected.sqlId spec ∧
        property? projected.flow FlowTemplate.reader FlowTemplate.watermarkProperty = some (.text spec.table.watermark) ∧
        property? projected.flow FlowTemplate.binding FlowTemplate.indexProperty = some (.text spec.destination.index) ∧
        property? projected.flow FlowTemplate.binding FlowTemplate.idFieldProperty = some (.text spec.table.primaryKey) := by
  have accepted : ∀ spec ∈ [Spec.Sample.orders, Spec.Sample.items], spec.Accepted := by
    simpa using ⟨Spec.Sample.orders_accepted, Spec.Sample.items_accepted⟩
  have distinct : ([Spec.Sample.orders, Spec.Sample.items].map Spec.tableName).Nodup := by decide
  have returns : ((Registry.build [Spec.Sample.orders, Spec.Sample.items]).toOption.bind fun registry =>
      (Projector.make registry [Spec.Sample.orders, Spec.Sample.items] none).bind fun projector =>
        (projector.run .null).1.toOption).isSome := by decide +kernel
  cases built : Registry.build [Spec.Sample.orders, Spec.Sample.items] with
  | error fault => simp [built, Except.toOption] at returns
  | ok registry =>
    obtain ⟨projector, made, origin⟩ := origin_of_projection (List.cons_ne_nil _ _) accepted built none
    simp only [built, made, Except.toOption, Option.bind_some] at returns
    cases run : (projector.run .null).1 with
    | error stop => simp [run] at returns
    | ok projected =>
      obtain ⟨spec, listed, last, ofSpec, -, -, -, watermark, index, idField, single⟩ := origin .null projected run
      cases single fun other there same => List.inj_on_of_nodup_map distinct there listed same
      exact ⟨registry, projector, projected, rfl, made, run, spec, listed, ofSpec, watermark, index, idField⟩

-- A flow that reads a query of the earlier of two specifications of one table keeps
-- it, while its index and its key become those of the later one.
theorem mixed_origin : (∀ spec ∈ [Spec.Sample.small, Spec.Sample.rival], spec.Accepted) ∧
    ∃ registry projector projected flow, Registry.build [Spec.Sample.small, Spec.Sample.rival] = .ok registry ∧
      Projector.make registry [Spec.Sample.small, Spec.Sample.rival] none = some projector ∧
      (projector.run flow).1 = .ok projected ∧ ¬ ∃ spec ∈ [Spec.Sample.small, Spec.Sample.rival],
        MadeFor registry projected.sqlId spec ∧
        property? projected.flow FlowTemplate.reader FlowTemplate.watermarkProperty = some (.text spec.table.watermark) ∧
        property? projected.flow FlowTemplate.binding FlowTemplate.indexProperty = some (.text spec.destination.index) ∧
        property? projected.flow FlowTemplate.binding FlowTemplate.idFieldProperty = some (.text spec.table.primaryKey) := by
  let specs := [Spec.Sample.small, Spec.Sample.rival]
  let registry : Registry := [Registry.item Spec.Sample.small "5m", Registry.item Spec.Sample.rival "60m"]
  let earlier := ((Projection.project [Registry.item Spec.Sample.small "5m"] [Spec.Sample.small] none .null).outcome.toOption.map
    Projected.flow).getD .null
  have built : Registry.build specs = .ok registry := eq_ok_of_toOption (by decide +kernel)
  have seen : (Projector.run ⟨registry, specs, none, []⟩ earlier).1.toOption.any fun projected =>
      property? projected.flow FlowTemplate.reader FlowTemplate.watermarkProperty = some (.text "U") ∧
      property? projected.flow FlowTemplate.binding FlowTemplate.indexProperty = some (.text "u") := by decide +kernel
  obtain ⟨projected, run, same⟩ := eq_ok_of_any seen
  simp only [decide_eq_true_eq] at same
  obtain ⟨watermark, index⟩ := same
  refine ⟨Spec.Sample.rivals_accepted, registry, ⟨registry, specs, none, []⟩, projected, earlier, built, rfl, run, ?_⟩
  simp only [List.mem_cons, List.not_mem_nil, or_false, watermark, index]
  rintro ⟨spec, rfl | rfl, -, ofWatermark, ofIndex, -⟩
  · exact absurd ofIndex (by decide)
  · exact absurd ofWatermark (by decide)

end ChangeCapture.Contract
