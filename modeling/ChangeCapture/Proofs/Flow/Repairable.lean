import ChangeCapture.Proofs.Flow.Topology
import ChangeCapture.Proofs.Outcome
import Mathlib.Data.List.Perm.Subperm

namespace ChangeCapture.Projection

variable {contents : Fields} {processors connections services : List Json}

def HasSomeConnections (connections : List Json) : Prop :=
  (connections.map Part.edge?).Subperm (FlowTemplate.edges.map some)

theorem hasSomeConnections_iff : HasSomeConnections connections ↔ ∃ seen, checkConnections [] connections = .ok seen := by
  constructor
  · intro held
    obtain ⟨listed, perm, sublist⟩ := held
    obtain ⟨edges, within, rfl⟩ := List.sublist_map_iff.mp sublist
    obtain ⟨found, same, again⟩ := exists_map_of_perm perm.symm
    have distinct : (FlowTemplate.edges.map FlowTemplate.Edge.id).Nodup := by decide
    refine ⟨_, checkConnections_eq_ok_iff.mpr ⟨found, same, rfl, fun edge member => ?_, by simp, ?_⟩⟩
    · exact within.subset (again.mem_iff.mp member)
    · exact (again.map _).nodup_iff.mpr (distinct.sublist (within.map _))
  · intro held
    obtain ⟨seen, passed⟩ := held
    obtain ⟨found, same, -, each, -, distinct⟩ := checkConnections_eq_ok_iff.mp passed
    rw [HasSomeConnections, same]
    exact List.subperm_of_subset (distinct.of_map.map fun _ _ => Option.some.inj) (List.map_subset _ each)

theorem exists_syncConnections_iff : (∃ result, (syncConnections contents).outcome = .ok result) ↔
    isAbsent (contents.lookup ("connections" : Text)) ∨
      ∃ connections, contents.lookup ("connections" : Text) = some (.list connections) ∧ HasSomeConnections connections := by
  rcases list_cases (contents.lookup ("connections" : Text)) with absent | ⟨present, ⟨items, filled, given⟩ | other⟩
  · simp [outcome_syncConnections_absent absent, absent]
  · rw [given] at present
    simp [outcome_syncConnections_list given filled, map_eq_ok_iff, present, given, hasSomeConnections_iff]
  · simp [syncConnections_of_other present other, drifted, present, other]

-- What the topology of a flow must be like for the rest of it to be looked at.
def HasTopology (contents : Fields) : Prop :=
  isAbsent (contents.lookup ("processors" : Text)) ∧ isAbsent (contents.lookup ("connections" : Text)) ∨
    ∃ processors, contents.lookup ("processors" : Text) = some (.list processors) ∧ HasProcessors processors ∧
      (isAbsent (contents.lookup ("connections" : Text)) ∨
        ∃ connections, contents.lookup ("connections" : Text) = some (.list connections) ∧ HasSomeConnections connections)

theorem exists_syncTopology_iff : (∃ result, (syncTopology contents).outcome = .ok result) ↔ HasTopology contents := by
  by_cases absent : isAbsent (contents.lookup ("processors" : Text)) ∧ isAbsent (contents.lookup ("connections" : Text))
  · simp [HasTopology, syncTopology, absent]
  · by_cases fit : ∃ processors, contents.lookup ("processors" : Text) = some (.list processors) ∧ HasProcessors processors
    · obtain ⟨processors, given, chain⟩ := fit
      rw [syncTopology_of_chain given chain, exists_syncConnections_iff]
      constructor
      · exact fun connected => .inr ⟨processors, given, chain, connected⟩
      · rintro (both | ⟨_, -, -, connected⟩)
        · exact absurd both absent
        · exact connected
    · obtain ⟨drift, stops⟩ := syncTopology_of_unfit absent fun processors given chain => fit ⟨processors, given, chain⟩
      rw [stops]
      constructor
      · intro held
        obtain ⟨_, made⟩ := held
        cases made
      · rintro (both | ⟨processors, given, chain, -⟩)
        · exact absurd both absent
        · exact absurd ⟨processors, given, chain⟩ fit

def HasNeededServices (contents : Fields) : Prop :=
  ∃ services, contents.lookup ("controllerServices" : Text) = some (.list services) ∧
    ∀ id ∈ FlowTemplate.serviceIds, id ≠ FlowTemplate.lookupService → (Part.find? services id).isSome

theorem hasServices_restored_iff : HasServices (services ++ missingServices services) ↔
    ∀ id ∈ FlowTemplate.serviceIds, id ≠ FlowTemplate.lookupService → (Part.find? services id).isSome := by
  have restored : ∀ item ∈ (FlowTemplate.service? FlowTemplate.lookupService).toList,
      Part.hasId FlowTemplate.lookupService item := by decide
  have present : (FlowTemplate.service? FlowTemplate.lookupService).toList ≠ [] := by decide
  simp only [HasServices, Part.find?_isSome_iff, List.mem_append]
  refine forall₂_congr fun id _ => ?_
  constructor
  · rintro ⟨item, given | missing, named⟩ other
    · exact ⟨item, given, named⟩
    · unfold missingServices at missing
      split at missing
      · cases missing
      · exact absurd (Part.hasId_unique named (restored item missing)) other
  · intro needed
    by_cases same : id = FlowTemplate.lookupService
    · subst same
      cases found : Part.find? services FlowTemplate.lookupService with
      | some service =>
        obtain ⟨item, given, named⟩ := Part.find?_isSome_iff.mp (Option.isSome_iff_exists.mpr ⟨service, found⟩)
        exact ⟨item, .inl given, named⟩
      | none =>
        obtain ⟨item, listed⟩ := List.exists_mem_of_ne_nil _ present
        exact ⟨item, .inr (by simpa [missingServices, found] using listed), restored item listed⟩
    · obtain ⟨item, given, named⟩ := needed same
      exact ⟨item, .inl given, named⟩

theorem exists_checkedServices_iff : (∃ result, (syncServices.checked services).outcome = .ok result) ↔
    HasServices (services ++ missingServices services) := by
  have complete : (FlowTemplate.serviceIds.filter fun id =>
      (Part.find? (services ++ missingServices services) id).isNone) = [] ↔ HasServices (services ++ missingServices services) := by
    rw [List.filter_eq_nil_iff, HasServices]
    refine forall₂_congr fun id _ => ?_
    cases Part.find? (services ++ missingServices services) id <;> simp
  rw [← complete]
  simp only [syncServices.checked, Repaired.bind_eq_ok_iff, outcome_restoreLookupService, Except.ok.injEq, exists_eq_left']
  split
  · rename_i first rest missing
    simp [drifted, missing]
  · rename_i none
    simp [none]

theorem exists_syncServices_iff : (∃ services, (syncServices contents).outcome = .ok services) ↔ HasNeededServices contents := by
  have nothing : ¬ HasServices (missingServices []) := by
    intro held
    have needed := hasServices_restored_iff.mp (show HasServices ([] ++ missingServices []) from held)
    exact absurd (needed FlowTemplate.databasePool (by decide) (by decide)) (by decide)
  unfold syncServices HasNeededServices
  rw [Fields.get?_eq_lookup]
  rcases contents.lookup ("controllerServices" : Text) with - | value
  · simp [exists_checkedServices_iff, nothing]
  · cases value with
    | list given => simp [exists_checkedServices_iff, hasServices_restored_iff]
    | null => simp [exists_checkedServices_iff, nothing]
    | bool | int | double | text | object => simp [drifted]

-- Contents that nothing but the binding can keep from being projected.
structure Repairable (contents : Fields) : Prop where
  topology : HasTopology contents
  services : HasNeededServices contents

theorem needed_of_topology {given linked : Json} :
    HasNeededServices ((contents.put "processors" given).put "connections" linked) ↔ HasNeededServices contents := by
  simp only [HasNeededServices, Fields.lookup_put_of_ne (show ("controllerServices" : Text) ≠ "connections" by decide),
    Fields.lookup_put_of_ne (show ("controllerServices" : Text) ≠ "processors" by decide)]

theorem processors_of_topology {linked served : Json} : Part.items (Fields.get? ((((contents.put "processors"
    (.list processors)).put "connections" linked)).put "controllerServices" served) "processors") = processors := by
  rw [Fields.get?_eq_lookup, Fields.lookup_put_of_ne (by decide), Fields.lookup_put_of_ne (by decide), Fields.lookup_put,
    Part.items]

theorem find?_of_chain (chain : HasProcessors processors) {id : Text} (listed : id ∈ FlowTemplate.processorIds) :
    ∃ processor, Part.find? processors id = some processor := by
  have member : some (.text id) ∈ processors.map Part.id? := chain.mem_iff.mpr (List.mem_map_of_mem listed)
  obtain ⟨item, present, named⟩ := List.mem_map.mp member
  exact Option.isSome_iff_exists.mp (Part.find?_isSome_iff.mpr ⟨item, present, Part.hasId_iff_id?.mpr named⟩)

end ChangeCapture.Projection
