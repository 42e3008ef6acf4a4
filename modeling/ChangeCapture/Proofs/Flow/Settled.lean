import ChangeCapture.Proofs.Flow.Binding
import ChangeCapture.Proofs.Flow.Queries

namespace ChangeCapture

theorem Projector.make_eq_some_iff {registry : Registry} {specs : List Spec} {target : Option Text} {projector : Projector} :
    Projector.make registry specs target = some projector ↔ registry ≠ [] ∧
      projector = ⟨registry, specs, (target.filter fun name => !name.isEmpty).map Text.upper, []⟩ := by
  unfold Projector.make
  split
  · rename_i empty
    simp [List.isEmpty_iff.mp empty]
  · rename_i filled
    have present : registry ≠ [] := by simpa using filled
    simp [present, eq_comm]

namespace Projection

variable {registry : Registry} {specs : List Spec} {target : Option Text} {contents result : Fields} {key : Text}
  {entry : Entry}

-- Contents that refer to exactly the queries of a registry and are bound to one of
-- them.
structure Settled (registry : Registry) (specs : List Spec) (key : Text) (contents : Fields) : Prop where
  processors : ∃ processors, contents.lookup ("processors" : Text) = some (.list processors) ∧ HasProcessors processors ∧
    ∃ entry spec, registry.lookup key = some entry ∧ (byTable specs).lookup entry.table = some spec ∧
      Bound key entry spec processors
  connections : ∃ connections, contents.lookup ("connections" : Text) = some (.list connections) ∧
    HasConnections connections
  services : ∃ services service properties, contents.lookup ("controllerServices" : Text) = some (.list services) ∧
    HasServices services ∧ Part.find? services FlowTemplate.lookupService = some service ∧
    service.lookup ("properties" : Text) = some (.object properties) ∧ HasQueries registry properties

-- Contents that no projection by the registry puts right any more. The table of the
-- entry may have no specification here.
structure Steady (registry : Registry) (specs : List Spec) (key : Text) (contents : Fields) : Prop where
  processors : ∃ processors, contents.lookup ("processors" : Text) = some (.list processors) ∧ HasProcessors processors ∧
    ∃ entry, registry.lookup key = some entry ∧ BoundBy key entry ((byTable specs).lookup entry.table) processors
  connections : ∃ connections, contents.lookup ("connections" : Text) = some (.list connections) ∧
    HasConnections connections
  services : ∃ services service properties, contents.lookup ("controllerServices" : Text) = some (.list services) ∧
    HasServices services ∧ Part.find? services FlowTemplate.lookupService = some service ∧
    service.lookup ("properties" : Text) = some (.object properties) ∧ HasQueries registry properties

theorem Settled.steady (settled : Settled registry specs key contents) : Steady registry specs key contents where
  processors := by
    obtain ⟨processors, given, chain, entry, spec, there, listed, bound⟩ := settled.processors
    exact ⟨processors, given, chain, entry, there, listed ▸ boundBy_some_iff.mpr bound⟩
  connections := settled.connections
  services := settled.services

theorem Steady.settled (steady : Steady registry specs key contents)
    (known : ∀ entry, registry.lookup key = some entry → ∃ spec, (byTable specs).lookup entry.table = some spec) :
    Settled registry specs key contents where
  processors := by
    obtain ⟨processors, given, chain, entry, there, bound⟩ := steady.processors
    obtain ⟨spec, listed⟩ := known entry there
    rw [listed] at bound
    exact ⟨processors, given, chain, entry, spec, there, listed, boundBy_some_iff.mp bound⟩
  connections := steady.connections
  services := steady.services

-- What a projection takes from the flow and from the template before it sets any
-- property.
structure Material where
  processors : List Json
  connections : List Json
  services : List Json
  service : Fields
  binding : Fields
  reader : Fields
  sink : Fields

namespace Material

structure Fits (material : Material) (contents : Fields) : Prop where
  chain : HasProcessors material.processors
  links : HasConnections material.connections
  present : HasServices material.services
  service : Part.find? material.services FlowTemplate.lookupService = some material.service
  binding : Part.find? material.processors FlowTemplate.binding = some material.binding
  reader : Part.find? material.processors FlowTemplate.reader = some material.reader
  sink : Part.find? material.processors FlowTemplate.sink = some material.sink
  ofProcessors : material.processors = takenProcessors contents
  ofConnections : material.connections = takenConnections contents
  ofServices : material.services = takenServices contents

def settledServices (material : Material) (registry : Registry) : List Json :=
  Part.replaceFirst FlowTemplate.lookupService
    (material.service.put "properties" (.object (syncedProperties registry (Part.properties material.service))))
    material.services

def boundProcessors (material : Material) (key : Text) (entry : Entry) (spec? : Option Spec) : List Json :=
  settledProcessors key entry spec? material.binding material.reader material.sink material.processors

def settle (material : Material) (registry : Registry) (key : Text) (entry : Entry) (spec? : Option Spec)
    (contents : Fields) : Fields :=
  (((contents.put "processors" (.list material.processors)).put "connections" (.list material.connections)).put
    "controllerServices" (.list (material.settledServices registry))).put
    "processors" (.list (material.boundProcessors key entry spec?))

end Material

theorem syncContents_eq_ok (present : registry ≠ [])
    (synced : (syncContents registry specs target contents).outcome = .ok (key, result)) :
    ∃ (material : Material) (entry : Entry), material.Fits contents ∧ registry.lookup key = some entry ∧
      result = material.settle registry key entry ((byTable specs).lookup entry.table) contents := by
  obtain ⟨topology, first, rest⟩ := Repaired.bind_eq_ok_iff.mp synced
  obtain ⟨chain, links, rfl⟩ := topology_of_sync first
  obtain ⟨_, second, rest⟩ := Repaired.bind_eq_ok_iff.mp rest
  obtain ⟨rfl, complete⟩ := services_of_sync second
  rw [takenServices_put_put] at complete rest
  obtain ⟨service, found⟩ := Option.isSome_iff_exists.mp (complete FlowTemplate.lookupService (by decide))
  dsimp only at rest
  rw [found, Option.getD_some] at rest
  obtain ⟨_, third, rest⟩ := Repaired.bind_eq_ok_iff.mp rest
  cases third
  obtain ⟨⟨chosen, bound⟩, fourth, rest⟩ := Repaired.bind_eq_ok_iff.mp rest
  cases rest
  rw [Fields.get?_eq_lookup, Fields.lookup_put_of_ne (by decide), Fields.lookup_put_of_ne (by decide), Fields.lookup_put,
    Part.items] at fourth
  obtain ⟨entry, binding, reader, sink, there, foundBinding, foundReader, foundSink, rfl⟩ := syncProcessors_eq_ok present fourth
  exact ⟨⟨takenProcessors contents, takenConnections contents, takenServices contents, service, binding, reader, sink⟩, entry,
    ⟨chain, links, complete, found, foundBinding, foundReader, foundSink, rfl, rfl, rfl⟩, there, rfl⟩

section Lists

variable {material : Material}

theorem Material.Fits.bound (fits : material.Fits contents) (key : Text) (entry : Entry) (spec? : Option Spec) :
    HasProcessors (material.boundProcessors key entry spec?) := by
  rw [HasProcessors, boundProcessors, ids_settledProcessors fits.binding fits.reader fits.sink]
  exact fits.chain

theorem Material.Fits.idOfService (fits : material.Fits contents) (value : Json) :
    (material.service.put "properties" value).lookup ("identifier" : Text) = some (.text FlowTemplate.lookupService) := by
  rw [Fields.lookup_put_of_ne (by decide), Part.id_of_find? fits.service]

theorem Material.Fits.settledService (fits : material.Fits contents) (registry : Registry) :
    Part.find? (material.settledServices registry) FlowTemplate.lookupService =
      some (material.service.put "properties" (.object (syncedProperties registry (Part.properties material.service)))) :=
  Part.find?_replaceFirst (by simp [fits.service]) (fits.idOfService _)

theorem Material.Fits.settledServices (fits : material.Fits contents) (registry : Registry) :
    HasServices (material.settledServices registry) := by
  intro id member
  by_cases same : id = FlowTemplate.lookupService
  · rw [same, fits.settledService registry]
    rfl
  · rw [Material.settledServices, Part.find?_replaceFirst_of_ne same (fits.idOfService _)]
    exact fits.present id member

theorem lookup_settle_processors (material : Material) (spec? : Option Spec) :
    (material.settle registry key entry spec? contents).lookup ("processors" : Text) =
      some (.list (material.boundProcessors key entry spec?)) := Fields.lookup_put ..

theorem lookup_settle_connections (material : Material) (spec? : Option Spec) :
    (material.settle registry key entry spec? contents).lookup ("connections" : Text) = some (.list material.connections) := by
  rw [Material.settle, Fields.lookup_put_of_ne (by decide), Fields.lookup_put_of_ne (by decide), Fields.lookup_put]

theorem lookup_settle_services (material : Material) (spec? : Option Spec) :
    (material.settle registry key entry spec? contents).lookup ("controllerServices" : Text) =
      some (.list (material.settledServices registry)) := by
  rw [Material.settle, Fields.lookup_put_of_ne (by decide), Fields.lookup_put]

end Lists

theorem Material.Fits.steady {material : Material} (fits : material.Fits contents) (distinct : (registry.map Prod.fst).Nodup)
    (there : registry.lookup key = some entry) :
    Steady registry specs key (material.settle registry key entry ((byTable specs).lookup entry.table) contents) where
  processors := ⟨_, lookup_settle_processors material _, fits.bound key entry _, entry, there,
    boundBy_settledProcessors fits.binding fits.reader fits.sink⟩
  connections := ⟨_, lookup_settle_connections material _, fits.links⟩
  services := ⟨_, _, _, lookup_settle_services material _, fits.settledServices registry, fits.settledService registry,
    Fields.lookup_put .., hasQueries_synced distinct _⟩

theorem syncContents_of_steady (distinct : (registry.map Prod.fst).Nodup) (target : Option Text)
    (steady : Steady registry specs key contents) :
    ∃ services service properties, contents.lookup ("controllerServices" : Text) = some (.list services) ∧
      Part.find? services FlowTemplate.lookupService = some service ∧
      service.lookup ("properties" : Text) = some (.object properties) ∧ HasQueries registry properties ∧
      syncContents registry specs target contents = .done (key, contents.put "controllerServices" (.list
        (Part.replaceFirst FlowTemplate.lookupService
          (service.put "properties" (.object (syncedProperties registry properties))) services))) := by
  obtain ⟨processors, listedProcessors, chain, entry, there, bound⟩ := steady.processors
  obtain ⟨connections, listedConnections, links⟩ := steady.connections
  obtain ⟨services, service, properties, listedServices, complete, found, given, held⟩ := steady.services
  have own := properties_of_lookup given
  have queries := syncLookup_of_hasQueries distinct (own.symm ▸ held)
  have kept : ∀ value, (contents.put "controllerServices" value).lookup ("processors" : Text) = some (.list processors) := by
    intro value
    rw [Fields.lookup_put_of_ne (by decide), listedProcessors]
  refine ⟨services, service, properties, listedServices, found, given, held, ?_⟩
  simp only [syncContents, syncTopology_of_held listedProcessors chain listedConnections links, Repaired.done_bind,
    syncServices_of_held listedServices complete, found, Option.getD_some, queries, own, Fields.get?_eq_lookup, kept,
    Part.items, syncProcessors_of_bound target there bound, Fields.put_of_lookup (kept _)]
  rfl

def started (flow : Json) : Json := if flow = .null then FlowTemplate.flow else flow

theorem outcome_startFlow (flow : Json) : (startFlow flow).outcome = .ok (started flow) := by
  cases flow <;> rfl

theorem project_eq_ok {flow : Json} {projected : Projected}
    (projects : (project registry specs target flow).outcome = .ok projected) :
    ∃ fields contents result, started flow = .object fields ∧ fields.lookup ("flowContents" : Text) = some (.object contents) ∧
      (syncContents registry specs target contents).outcome = .ok (projected.sqlId, result) ∧
      projected.flow = .object (Fields.put "flowContents" (.object result) fields) := by
  obtain ⟨_, first, rest⟩ := Repaired.bind_eq_ok_iff.mp projects
  cases (outcome_startFlow flow).symm.trans first
  split at rest
  · rename_i fields same
    split at rest
    · rename_i contents given
      obtain ⟨⟨key, result⟩, synced, made⟩ := Repaired.bind_eq_ok_iff.mp rest
      cases made
      exact ⟨fields, contents, result, same, given, synced, rfl⟩
    · cases rest
  · cases rest

theorem steady_of_project {flow : Json} {projected : Projected} (present : registry ≠ [])
    (distinct : (registry.map Prod.fst).Nodup) (projects : (project registry specs target flow).outcome = .ok projected) :
    ∃ contents, projected.flow.field? "flowContents" = some (.object contents) ∧
      Steady registry specs projected.sqlId contents := by
  obtain ⟨fields, contents, result, -, -, synced, made⟩ := project_eq_ok projects
  obtain ⟨material, entry, fits, there, rfl⟩ := syncContents_eq_ok present synced
  exact ⟨_, by simp [made, Json.field?], fits.steady distinct there⟩

end Projection

end ChangeCapture
