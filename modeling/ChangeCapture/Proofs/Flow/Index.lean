import ChangeCapture.Proofs.Flow.Settled

namespace ChangeCapture.Projection

open Repaired (Yields yields_done)

-- Contents in which nothing but the index may still have to be put right.

variable {registry : Registry} {specs : List Spec} {target : Option Text} {contents processor properties : Fields}
  {processors : List Json} {key name value : Text} {entry : Entry} {spec : Spec}

def IsIndexRepair (repair : Repair) : Prop :=
  repair.kind = .propertySet ∧ repair.target = FlowTemplate.binding ++ "." ++ FlowTemplate.indexProperty

structure BoundButIndex (key : Text) (entry : Entry) (spec : Spec) (processors : List Json) : Prop where
  key : HasProperty processors FlowTemplate.binding FlowTemplate.sqlIdProperty key
  idField : HasProperty processors FlowTemplate.binding FlowTemplate.idFieldProperty spec.table.primaryKey
  watermark : HasProperty processors FlowTemplate.reader FlowTemplate.watermarkProperty entry.watermark
  operation : HasProperty processors FlowTemplate.sink FlowTemplate.operationProperty FlowTemplate.upsert

structure SettledButIndex (registry : Registry) (specs : List Spec) (key : Text) (contents : Fields) : Prop where
  processors : ∃ processors, contents.lookup ("processors" : Text) = some (.list processors) ∧ HasProcessors processors ∧
    ∃ entry spec, registry.lookup key = some entry ∧ (byTable specs).lookup entry.table = some spec ∧
      BoundButIndex key entry spec processors
  connections : ∃ connections, contents.lookup ("connections" : Text) = some (.list connections) ∧
    HasConnections connections
  services : ∃ services service, contents.lookup ("controllerServices" : Text) = some (.list services) ∧
    HasServices services ∧ Part.find? services FlowTemplate.lookupService = some service ∧
    HasQueries registry (Part.properties service)

theorem yields_setIndex (named : processor.lookup ("identifier" : Text) = some (.text FlowTemplate.binding))
    (given : processor.lookup ("properties" : Text) = some (.object properties)) (value : Text) :
    Yields IsIndexRepair (setProperty FlowTemplate.indexProperty value processor)
      (putProperty processor FlowTemplate.indexProperty value) := by
  refine ⟨outcome_setProperty .., ?_⟩
  have own : idOf processor = FlowTemplate.binding := by simp [idOf, named, Json.spliced]
  simp only [setProperty, withProperties_of_held given, Repaired.done_bind]
  split
  · simp [Repaired.done]
  · simp [Repaired.note, IsIndexRepair, own]

theorem yields_bindQuery (target : Option Text) (there : registry.lookup key = some entry)
    (listed : (byTable specs).lookup entry.table = some spec)
    (named : processor.lookup ("identifier" : Text) = some (.text FlowTemplate.binding))
    (given : processor.lookup ("properties" : Text) = some (.object properties))
    (ofKey : properties.lookup FlowTemplate.sqlIdProperty = some (.text key))
    (ofIdField : properties.lookup FlowTemplate.idFieldProperty = some (.text spec.table.primaryKey)) :
    Yields IsIndexRepair (bindQuery registry specs target processor)
      (key, putProperty processor FlowTemplate.indexProperty spec.destination.index) := by
  have has : registry.has key := Registry.has_iff.mpr (lookup_isSome_iff_mem.mp (by simp [there]))
  have kept : setProperty FlowTemplate.idFieldProperty spec.table.primaryKey
      (putProperty processor FlowTemplate.indexProperty spec.destination.index) =
        .done (putProperty processor FlowTemplate.indexProperty spec.destination.index) := by
    refine setProperty_of_held (lookup_putProperty ..) ?_
    rw [properties_of_lookup given, Fields.lookup_put_of_ne (by decide), ofIdField]
  simp only [bindQuery, withProperties_of_held given, Repaired.done_bind, properties_of_lookup given, ofKey, Option.getD_some,
    bindQuery.choose, has, if_true, there, Option.bind_some, listed]
  refine (yields_setIndex named given _).bind ?_
  rw [kept, Repaired.done_bind]
  exact yields_done _

theorem yields_onProcessor {α : Type} {allowed : Repair → Prop} {id : Text} {change : Fields → Projecting (α × Fields)}
    {one : α} {changed : Fields} (found : Part.find? processors id = some processor)
    (changes : Yields allowed (change processor) (one, changed)) :
    Yields allowed (onProcessor id change processors) (one, Part.replaceFirst id changed processors) := by
  simp only [onProcessor, found]
  exact changes.bind (yields_done _)

-- Reader and sink stay as they are, wherever the binding stands among the processors.
theorem yields_syncProcessors (target : Option Text) (there : registry.lookup key = some entry)
    (listed : (byTable specs).lookup entry.table = some spec) (bound : BoundButIndex key entry spec processors) :
    ∃ result, Yields IsIndexRepair (syncProcessors registry specs target processors) (key, result) := by
  obtain ⟨binding, ofBinding, foundBinding, givenBinding, ofKey⟩ := bound.key
  have named := Part.id_of_find? foundBinding
  have binds := yields_bindQuery target there listed named givenBinding ofKey
    (bound.idField.unique foundBinding givenBinding)
  have keeps : (putProperty binding FlowTemplate.indexProperty spec.destination.index).lookup ("identifier" : Text) =
      some (.text FlowTemplate.binding) := by rw [id_putProperty, named]
  obtain ⟨reader, ofReader, foundReader, givenReader, ofWatermark⟩ := bound.watermark
  obtain ⟨sink, ofSink, foundSink, givenSink, ofOperation⟩ := bound.operation
  have reads : setProperty FlowTemplate.watermarkProperty entry.watermark reader = .done reader :=
    setProperty_of_held givenReader ofWatermark
  have writes : setProperty FlowTemplate.operationProperty FlowTemplate.upsert sink = .done sink :=
    setProperty_of_held givenSink ofOperation
  rw [← Part.find?_replaceFirst_of_ne (by decide) keeps] at foundReader foundSink
  refine ⟨Part.replaceFirst FlowTemplate.binding (putProperty binding FlowTemplate.indexProperty spec.destination.index)
    processors, (yields_onProcessor foundBinding binds).bind ?_⟩
  simp only [there, Option.map_some, Option.getD_some]
  rw [onProcessor_of_done foundReader (by rw [reads]; rfl), Repaired.done_bind,
    onProcessor_of_done foundSink (by rw [writes]; rfl)]
  exact yields_done _

theorem yields_syncContents (distinct : (registry.map Prod.fst).Nodup) (target : Option Text)
    (settled : SettledButIndex registry specs key contents) :
    ∃ result, Yields IsIndexRepair (syncContents registry specs target contents) (key, result) := by
  obtain ⟨processors, listedProcessors, chain, entry, spec, there, listed, bound⟩ := settled.processors
  obtain ⟨connections, listedConnections, links⟩ := settled.connections
  obtain ⟨services, service, listedServices, complete, found, held⟩ := settled.services
  have kept : ∀ value, (contents.put "controllerServices" value).lookup ("processors" : Text) = some (.list processors) := by
    intro value
    rw [Fields.lookup_put_of_ne (by decide), listedProcessors]
  obtain ⟨result, synced⟩ := yields_syncProcessors target there listed bound
  simp only [syncContents, syncTopology_of_held listedProcessors chain listedConnections links, Repaired.done_bind,
    syncServices_of_held listedServices complete, found, Option.getD_some, syncLookup_of_hasQueries distinct held,
    Fields.get?_eq_lookup, kept, Part.items]
  exact ⟨_, synced.bind (yields_done _)⟩

theorem project_of_contents (registry : Registry) (specs : List Spec) (target : Option Text) {flow : Json}
    (given : flow.field? "flowContents" = some (.object contents)) :
    ∃ fields, project registry specs target flow = (syncContents registry specs target contents >>= fun synced =>
      .done ⟨.object (Fields.put "flowContents" (.object synced.2) fields), synced.1⟩) := by
  obtain ⟨fields, rfl, there⟩ := Json.field?_eq_some_iff.mp given
  refine ⟨fields, ?_⟩
  simp only [project, startFlow, Repaired.done_bind, Fields.get?_eq_lookup, there]
  rfl

theorem yields_project (distinct : (registry.map Prod.fst).Nodup) (target : Option Text) {flow : Json}
    (given : flow.field? "flowContents" = some (.object contents)) (settled : SettledButIndex registry specs key contents) :
    ∃ projected, Yields IsIndexRepair (project registry specs target flow) projected := by
  obtain ⟨fields, same⟩ := project_of_contents registry specs target given
  obtain ⟨result, synced⟩ := yields_syncContents distinct target settled
  rw [same]
  exact ⟨_, synced.bind (yields_done _)⟩

end ChangeCapture.Projection
