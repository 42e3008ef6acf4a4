import ChangeCapture.Proofs.Flow.Fallback
import ChangeCapture.Proofs.Flow.Repairable
import ChangeCapture.Proofs.Flow.Settled

namespace ChangeCapture

def Part.hasCollectionId (item : Json) : Bool :=
  match Part.id? item with
  | some (.list _) | some (.object _) => true
  | _ => false

namespace Projection

variable {α β : Type} {registry : Registry} {specs : List Spec} {target : Option Text} {contents processor : Fields}
  {processors connections : List Json}

-- An outcome that is a value or drift, and nothing that a projection is not made for.
def AtMostDrifts (outcome : Except ProjectionStop α) : Prop :=
  ∀ stop, outcome = .error stop → ∃ drift, stop = .drift drift

@[simp] theorem atMostDrifts_ok (value : α) : AtMostDrifts (.ok value) := by
  intro stop stopped
  cases stopped

@[simp] theorem atMostDrifts_error_iff {stop : ProjectionStop} :
    AtMostDrifts (.error stop : Except ProjectionStop α) ↔ ∃ drift, stop = .drift drift := by
  constructor
  · exact fun held => held stop rfl
  · intro held other same
    cases same
    exact held

instance : DecidablePred (AtMostDrifts : Except ProjectionStop α → Prop)
  | .ok value => isTrue (atMostDrifts_ok value)
  | .error (.drift drift) => isTrue (atMostDrifts_error_iff.mpr ⟨drift, rfl⟩)
  | .error (.collectionId _) => isFalse (by simp)
  | .error (.window _) => isFalse (by simp)

@[simp] theorem atMostDrifts_drifted (drift : FlowDrift) : AtMostDrifts (drifted drift : Projecting α).outcome := by
  simp [drifted]

theorem atMostDrifts_bind_iff {first : Projecting α} {next : α → Projecting β} : AtMostDrifts (first >>= next).outcome ↔
    AtMostDrifts first.outcome ∧ ∀ value, first.outcome = .ok value → AtMostDrifts (next value).outcome := by
  change AtMostDrifts (Repaired.andThen first next).outcome ↔ _
  unfold Repaired.andThen
  cases same : first.outcome with
  | error stop => simp
  | ok value => simp

theorem atMostDrifts_map_iff {outcome : Except ProjectionStop α} {change : α → β} :
    AtMostDrifts (outcome.map change) ↔ AtMostDrifts outcome := by
  cases outcome <;> simp [Except.map]

theorem atMostDrifts_of_ok {step : Projecting α} {value : α} (made : step.outcome = .ok value) : AtMostDrifts step.outcome := by
  rw [made]
  exact atMostDrifts_ok value

section Topology

theorem checkConnections_step (seen : List Text) (connection : Json) :
    Part.hasCollectionId connection ∧
        (∃ kind, ∀ rest, checkConnections seen (connection :: rest) = .error (.collectionId kind)) ∨
      ¬ Part.hasCollectionId connection ∧
        ((∃ drift, ∀ rest, checkConnections seen (connection :: rest) = .error (.drift drift)) ∨
          ∃ id, ∀ rest, checkConnections seen (connection :: rest) = checkConnections (seen ++ [id]) rest) := by
  cases named : Part.id? connection with
  | none => exact .inr ⟨by simp [Part.hasCollectionId, named], .inl ⟨_, fun rest => by rw [checkConnections, named]⟩⟩
  | some value =>
    cases value with
    | list ids => exact .inl ⟨by simp [Part.hasCollectionId, named], _, fun rest => by rw [checkConnections, named]⟩
    | object fields => exact .inl ⟨by simp [Part.hasCollectionId, named], _, fun rest => by rw [checkConnections, named]⟩
    | text id =>
      refine .inr ⟨by simp [Part.hasCollectionId, named], ?_⟩
      simp only [checkConnections, named]
      cases edge? id with
      | none => exact .inl ⟨_, fun rest => rfl⟩
      | some edge =>
        dsimp only
        split
        · exact .inl ⟨_, fun rest => rfl⟩
        · split
          · exact .inr ⟨id, fun rest => rfl⟩
          · exact .inl ⟨_, fun rest => rfl⟩
    | null | bool | int | double =>
      exact .inr ⟨by simp [Part.hasCollectionId, named], .inl ⟨_, fun rest => by simp only [checkConnections, named]; rfl⟩⟩

-- The check passes some of the template's connections and then comes to an identifier that
-- it cannot look up.
def Stuck (seen : List Text) (connections : List Json) : Prop :=
  ∃ before connection after all, connections = before ++ connection :: after ∧
    checkConnections seen before = .ok all ∧ Part.hasCollectionId connection

theorem stuck_cons_iff {seen : List Text} {connection : Json} {rest : List Json} :
    Stuck seen (connection :: rest) ↔ Part.hasCollectionId connection ∨ ∃ before other after all,
      rest = before ++ other :: after ∧ checkConnections seen (connection :: before) = .ok all ∧ Part.hasCollectionId other := by
  constructor
  · intro stuck
    obtain ⟨before, other, after, all, same, passed, collection⟩ := stuck
    cases before with
    | nil =>
      cases same
      exact .inl collection
    | cons first before =>
      cases same
      exact .inr ⟨before, other, after, all, rfl, passed, collection⟩
  · rintro (collection | ⟨before, other, after, all, rfl, passed, collection⟩)
    · exact ⟨[], connection, rest, seen, rfl, rfl, collection⟩
    · exact ⟨connection :: before, other, after, all, rfl, passed, collection⟩

theorem atMostDrifts_checkConnections_iff {seen : List Text} :
    AtMostDrifts (checkConnections seen connections) ↔ ¬ Stuck seen connections := by
  induction connections generalizing seen with
  | nil => simp [checkConnections, Stuck]
  | cons connection rest ih =>
    rw [stuck_cons_iff]
    rcases checkConnections_step seen connection with ⟨collection, kind, stops⟩ | ⟨single, ⟨drift, stops⟩ | ⟨id, goes⟩⟩
    · simp [stops, collection]
    · simp [stops, single]
    · simp [goes, ih, single, Stuck]

def Blocked (contents : Fields) : Prop :=
  ∃ processors before connection after, contents.lookup ("processors" : Text) = some (.list processors) ∧
    HasProcessors processors ∧ contents.lookup ("connections" : Text) = some (.list (before ++ connection :: after)) ∧
    HasSomeConnections before ∧ Part.hasCollectionId connection

theorem Blocked.hasCollectionId (blocked : Blocked contents) :
    ∃ connection ∈ Part.items (contents.lookup ("connections" : Text)), Part.hasCollectionId connection := by
  obtain ⟨processors, before, connection, after, -, -, linked, -, collection⟩ := blocked
  exact ⟨connection, by simp [linked, Part.items], collection⟩

theorem stuck_iff : Stuck [] connections ↔ ∃ before connection after, connections = before ++ connection :: after ∧
    HasSomeConnections before ∧ Part.hasCollectionId connection := by
  simp only [Stuck, hasSomeConnections_iff]
  constructor
  · intro stuck
    obtain ⟨before, connection, after, all, same, passed, collection⟩ := stuck
    exact ⟨before, connection, after, same, ⟨all, passed⟩, collection⟩
  · intro held
    obtain ⟨before, connection, after, same, ⟨all, passed⟩, collection⟩ := held
    exact ⟨before, connection, after, all, same, passed, collection⟩

theorem atMostDrifts_syncConnections_iff : AtMostDrifts (syncConnections contents).outcome ↔
    ¬ ∃ connections, contents.lookup ("connections" : Text) = some (.list connections) ∧ Stuck [] connections := by
  rcases list_cases (contents.lookup ("connections" : Text)) with absent | ⟨present, ⟨items, filled, given⟩ | other⟩
  · have empty := items_of_absent absent
    simp only [outcome_syncConnections_absent absent, atMostDrifts_ok, true_iff]
    rintro ⟨connections, given, before, connection, after, all, rfl, -⟩
    simp [given, Part.items] at empty
  · simp [outcome_syncConnections_list given filled, atMostDrifts_map_iff, atMostDrifts_checkConnections_iff, given]
  · simp [syncConnections_of_other present other, other]

theorem atMostDrifts_syncTopology_iff : AtMostDrifts (syncTopology contents).outcome ↔ ¬ Blocked contents := by
  by_cases absent : isAbsent (contents.lookup ("processors" : Text)) ∧ isAbsent (contents.lookup ("connections" : Text))
  · obtain ⟨_, made⟩ := exists_syncTopology_iff.mpr (.inl absent)
    refine iff_of_true (atMostDrifts_of_ok made) ?_
    rintro ⟨processors, before, connection, after, given, chain, -⟩
    have empty := items_of_absent absent.1
    rw [given] at empty
    cases empty
    exact absurd chain.length_eq (by decide)
  · by_cases fit : ∃ processors, contents.lookup ("processors" : Text) = some (.list processors) ∧ HasProcessors processors
    · obtain ⟨processors, given, chain⟩ := fit
      rw [syncTopology_of_chain given chain, atMostDrifts_syncConnections_iff, not_iff_not]
      simp only [stuck_iff, Blocked]
      constructor
      · rintro ⟨_, linked, before, connection, after, rfl, some, collection⟩
        exact ⟨processors, before, connection, after, given, chain, linked, some, collection⟩
      · rintro ⟨_, before, connection, after, -, -, linked, some, collection⟩
        exact ⟨_, linked, before, connection, after, rfl, some, collection⟩
    · obtain ⟨drift, stops⟩ := syncTopology_of_unfit absent fun processors given chain => fit ⟨processors, given, chain⟩
      rw [stops]
      refine iff_of_true (atMostDrifts_drifted drift) ?_
      rintro ⟨processors, _, _, _, given, chain, -⟩
      exact fit ⟨processors, given, chain⟩

end Topology

section Services

theorem atMostDrifts_syncServices (contents : Fields) : AtMostDrifts (syncServices contents).outcome := by
  have checked : ∀ services, AtMostDrifts (syncServices.checked services).outcome := by
    intro services
    refine atMostDrifts_bind_iff.mpr ⟨atMostDrifts_of_ok (outcome_restoreLookupService services), fun restored _ => ?_⟩
    split
    · exact atMostDrifts_drifted _
    · exact atMostDrifts_ok _
  unfold syncServices
  split
  · exact checked []
  · exact checked _
  · exact atMostDrifts_drifted _

end Services

section Binding

theorem lookup_properties_iff {name : Text} {value : Json} : (Part.properties processor).lookup name = some value ↔
    ∃ properties, processor.lookup ("properties" : Text) = some (.object properties) ∧ properties.lookup name = some value := by
  unfold Part.properties
  rw [Fields.get?_eq_lookup]
  rcases processor.lookup ("properties" : Text) with - | found
  · simp
  · cases found <;> simp

def KeepsKey (registry : Registry) (processors : List Json) : Prop :=
  ∃ key, registry.has key ∧ HasProperty processors FlowTemplate.binding FlowTemplate.sqlIdProperty key

theorem atMostDrifts_rebind_iff {current : Json} :
    AtMostDrifts (bindQuery.rebind registry specs target processor current).outcome ↔
      ∃ key, defaultKey registry specs target = .ok key := by
  unfold bindQuery.rebind
  cases defaultKey registry specs target <;> simp

theorem atMostDrifts_choose_iff {current : Json} :
    AtMostDrifts (bindQuery.choose registry specs target processor current).outcome ↔
      (∃ key, current = .text key ∧ registry.has key) ∨ ∃ key, defaultKey registry specs target = .ok key := by
  unfold bindQuery.choose
  split
  · rename_i key
    split
    · rename_i has
      simp [has]
    · rename_i absent
      simp [atMostDrifts_rebind_iff, absent]
  · rename_i other
    have noText : ¬ ∃ key, current = .text key ∧ registry.has key := fun ⟨key, same, _⟩ => other key same
    simp [atMostDrifts_rebind_iff, noText]

theorem atMostDrifts_setProperty (name value : Text) (processor : Fields) :
    AtMostDrifts (setProperty name value processor).outcome := atMostDrifts_of_ok (outcome_setProperty name value processor)

theorem atMostDrifts_bindQuery_iff : AtMostDrifts (bindQuery registry specs target processor).outcome ↔
    (∃ key, registry.has key ∧ (Part.properties processor).lookup FlowTemplate.sqlIdProperty = some (.text key)) ∨
      ∃ key, defaultKey registry specs target = .ok key := by
  have own := properties_of_lookup (Fields.lookup_put processor "properties" (.object (Part.properties processor)))
  have current : (∃ key, (((Part.properties processor).lookup FlowTemplate.sqlIdProperty).getD .null) = .text key ∧
      registry.has key) ↔
      ∃ key, registry.has key ∧ (Part.properties processor).lookup FlowTemplate.sqlIdProperty = some (.text key) := by
    cases (Part.properties processor).lookup FlowTemplate.sqlIdProperty <;> simp [and_comm]
  unfold bindQuery
  rw [atMostDrifts_bind_iff, outcome_withProperties]
  simp only [atMostDrifts_ok, true_and, Except.ok.injEq, forall_eq', own]
  rw [atMostDrifts_bind_iff, atMostDrifts_choose_iff, current]
  refine and_iff_left fun chosen _ => ?_
  split
  · exact atMostDrifts_ok _
  · refine atMostDrifts_bind_iff.mpr ⟨atMostDrifts_setProperty _ _ _, fun _ _ => ?_⟩
    exact atMostDrifts_bind_iff.mpr ⟨atMostDrifts_setProperty _ _ _, fun _ _ => atMostDrifts_ok _⟩

theorem atMostDrifts_onProcessor_iff {id : Text} {change : Fields → Projecting (α × Fields)} :
    AtMostDrifts (onProcessor id change processors).outcome ↔
      ∀ processor, Part.find? processors id = some processor → AtMostDrifts (change processor).outcome := by
  unfold onProcessor
  cases Part.find? processors id with
  | none => simp
  | some processor =>
    simp only [Option.some.injEq, forall_eq']
    rw [atMostDrifts_bind_iff]
    exact and_iff_left fun _ _ => atMostDrifts_ok _

theorem atMostDrifts_syncProcessors_iff (chain : HasProcessors processors) :
    AtMostDrifts (syncProcessors registry specs target processors).outcome ↔
      KeepsKey registry processors ∨ ∃ key, defaultKey registry specs target = .ok key := by
  obtain ⟨binding, found⟩ := find?_of_chain chain (show FlowTemplate.binding ∈ FlowTemplate.processorIds by decide)
  have kept : KeepsKey registry processors ↔
      ∃ key, registry.has key ∧ (Part.properties binding).lookup FlowTemplate.sqlIdProperty = some (.text key) := by
    simp [KeepsKey, HasProperty, found, lookup_properties_iff]
  have bound : AtMostDrifts (onProcessor FlowTemplate.binding (bindQuery registry specs target) processors).outcome ↔
      KeepsKey registry processors ∨ ∃ key, defaultKey registry specs target = .ok key := by
    simp [atMostDrifts_onProcessor_iff, found, atMostDrifts_bindQuery_iff, kept]
  have set : ∀ id name value processors, AtMostDrifts (onProcessor id (fun processor => do
      let processor ← setProperty name value processor
      pure ((), processor)) processors).outcome := by
    intro id name value processors
    refine atMostDrifts_onProcessor_iff.mpr fun processor _ => ?_
    exact atMostDrifts_bind_iff.mpr ⟨atMostDrifts_setProperty _ _ _, fun _ _ => atMostDrifts_ok _⟩
  unfold syncProcessors
  rw [atMostDrifts_bind_iff, bound]
  refine and_iff_left fun _ _ => ?_
  refine atMostDrifts_bind_iff.mpr ⟨set _ _ _ _, fun _ _ => ?_⟩
  exact atMostDrifts_bind_iff.mpr ⟨set _ _ _ _, fun _ _ => atMostDrifts_ok _⟩

end Binding

theorem atMostDrifts_syncContents_iff : AtMostDrifts (syncContents registry specs target contents).outcome ↔
    ¬ Blocked contents ∧ (Repairable contents → KeepsKey registry (takenProcessors contents) ∨
      ∃ key, defaultKey registry specs target = .ok key) := by
  unfold syncContents
  rw [atMostDrifts_bind_iff, atMostDrifts_syncTopology_iff]
  refine and_congr_right fun _ => ?_
  have later : ∀ topology, (syncTopology contents).outcome = .ok topology → HasProcessors (takenProcessors contents) ∧
      (HasNeededServices topology ↔ HasNeededServices contents) ∧
      ∀ value, Part.items (Fields.get? (topology.put "controllerServices" value) "processors") = takenProcessors contents := by
    intro topology made
    obtain ⟨chain, -, rfl⟩ := topology_of_sync made
    exact ⟨chain, needed_of_topology, fun value => processors_of_topology⟩
  constructor
  · intro held repairable
    obtain ⟨topology, made⟩ := exists_syncTopology_iff.mpr repairable.topology
    obtain ⟨chain, needed, taken⟩ := later topology made
    obtain ⟨services, restored⟩ := exists_syncServices_iff.mpr (needed.mpr repairable.services)
    have rest := (atMostDrifts_bind_iff.mp (held topology made)).2 services restored
    have rest := (atMostDrifts_bind_iff.mp rest).2 _ rfl
    have bound := (atMostDrifts_bind_iff.mp rest).1
    rwa [taken, atMostDrifts_syncProcessors_iff chain] at bound
  · intro held topology made
    obtain ⟨chain, needed, taken⟩ := later topology made
    refine atMostDrifts_bind_iff.mpr ⟨atMostDrifts_syncServices topology, fun services restored => ?_⟩
    refine atMostDrifts_bind_iff.mpr ⟨atMostDrifts_ok _, fun service _ => ?_⟩
    refine atMostDrifts_bind_iff.mpr ⟨?_, fun _ _ => atMostDrifts_ok _⟩
    rw [taken, atMostDrifts_syncProcessors_iff chain]
    exact held ⟨exists_syncTopology_iff.mp ⟨topology, made⟩, needed.mp (exists_syncServices_iff.mp ⟨services, restored⟩)⟩

theorem atMostDrifts_project_iff {flow : Json} : AtMostDrifts (project registry specs target flow).outcome ↔
    ∀ contents, (started flow).field? "flowContents" = some (.object contents) →
      AtMostDrifts (syncContents registry specs target contents).outcome := by
  unfold project
  rw [atMostDrifts_bind_iff, outcome_startFlow]
  simp only [atMostDrifts_ok, true_and, Except.ok.injEq, forall_eq']
  cases started flow with
  | object fields =>
    simp only [Json.field?, Fields.get?_eq_lookup]
    split
    · rename_i contents given
      simp only [given, Option.some.injEq, Json.object.injEq, forall_eq']
      rw [atMostDrifts_bind_iff]
      exact and_iff_left fun _ _ => atMostDrifts_ok _
    · rename_i none
      exact iff_of_true (atMostDrifts_drifted _) fun contents given => absurd given (none contents)
  | null | bool | int | double | text | list => simp [Json.field?]

-- What keeps a projection from ending with a flow or with drift: a connection that it comes
-- to, or, when the flow needs a new query, a fallback whose default cannot be told.
def Unprojectable (registry : Registry) (specs : List Spec) (target : Option Text) (flow : Json) : Prop :=
  ∃ contents, (started flow).field? "flowContents" = some (.object contents) ∧
    (Blocked contents ∨ Repairable contents ∧ ¬ KeepsKey registry (takenProcessors contents) ∧
      ∃ spec, IsFallback specs target spec ∧ ¬ spec.HasDefault)

theorem atMostDrifts_project_of_build (valid : ∀ spec ∈ specs, spec.Valid) (present : specs ≠ [])
    (built : Registry.build specs = .ok registry) {flow : Json} :
    AtMostDrifts (project registry specs target flow).outcome ↔ ¬ Unprojectable registry specs target flow := by
  simp only [atMostDrifts_project_iff, atMostDrifts_syncContents_iff, exists_defaultKey_iff valid present built,
    Unprojectable, not_exists, not_and, not_or, not_not]
  refine forall₂_congr fun contents _ => and_congr_right fun _ => forall_congr' fun _ => ?_
  exact or_iff_not_imp_left

end Projection

end ChangeCapture
