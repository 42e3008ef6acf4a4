import ChangeCapture.Proofs.Flow.Canonical
import ChangeCapture.Proofs.Flow.Index
import ChangeCapture.Proofs.Json.Reordering
import ChangeCapture.Proofs.Spec.Sample

namespace ChangeCapture.Projection

open FlowTemplate (Edge)
open Repaired (Quiet Notes quiet_done quiet_stop quiet_note notes_done notes_stop notes_note)

variable {registry : Registry} {specs : List Spec} {target : Option Text} {contents processor properties service result : Fields}
  {processors connections services : List Json} {key name value : Text} {flow : Json} {kind : RepairKind}

section Unchanged

theorem quiet_withProperties (processor : Fields) : Quiet (· = processor) (withProperties processor) := by
  unfold withProperties
  split
  · exact quiet_done rfl
  · exact quiet_note

theorem quiet_setProperty (name value : Text) (processor : Fields) : Quiet (· = processor) (setProperty name value processor) := by
  apply (quiet_withProperties processor).bind
  rintro _ rfl
  dsimp only
  split
  · exact quiet_done rfl
  · exact quiet_note

theorem quiet_choose (processor : Fields) (current : Json) :
    Quiet (fun chosen => chosen.2 = processor) (bindQuery.choose registry specs target processor current) := by
  have rebound : Quiet (fun chosen => chosen.2 = processor) (bindQuery.rebind registry specs target processor current) := by
    unfold bindQuery.rebind
    split
    · exact quiet_stop
    · exact quiet_note
  unfold bindQuery.choose
  split
  · split
    · exact quiet_done rfl
    · exact rebound
  · exact rebound

theorem quiet_bindQuery (processor : Fields) :
    Quiet (fun bound => bound.2 = processor) (bindQuery registry specs target processor) := by
  apply (quiet_withProperties processor).bind
  rintro _ rfl
  apply (quiet_choose _ _).bind
  rintro ⟨key, _⟩ rfl
  dsimp only
  split
  · exact quiet_done rfl
  · apply (quiet_setProperty _ _ _).bind
    rintro _ rfl
    apply (quiet_setProperty _ _ _).bind
    rintro _ rfl
    exact quiet_done rfl

theorem quiet_onProcessor {α : Type} {change : Fields → Projecting (α × Fields)} (id : Text) (processors : List Json)
    (changes : ∀ processor, Quiet (fun changed => changed.2 = processor) (change processor)) :
    Quiet (fun changed => changed.2 = processors) (onProcessor id change processors) := by
  unfold onProcessor
  split
  · exact quiet_stop
  · rename_i processor found
    apply (changes processor).bind
    rintro ⟨one, _⟩ rfl
    exact quiet_done (Part.replaceFirst_of_find? found)

theorem quiet_syncProcessors (processors : List Json) :
    Quiet (fun synced => synced.2 = processors) (syncProcessors registry specs target processors) := by
  have set : ∀ (name value : Text) (processor : Fields), Quiet (fun changed => changed.2 = processor) (do
      let processor ← setProperty name value processor
      pure ((), processor) : Projecting (Unit × Fields)) := by
    intro name value processor
    apply (quiet_setProperty name value processor).bind
    rintro _ rfl
    exact quiet_done rfl
  apply (quiet_onProcessor _ _ quiet_bindQuery).bind
  rintro ⟨key, _⟩ rfl
  apply (quiet_onProcessor _ _ (set _ _)).bind
  rintro ⟨_, _⟩ rfl
  apply (quiet_onProcessor _ _ (set _ _)).bind
  rintro ⟨_, _⟩ rfl
  exact quiet_done rfl

theorem quiet_restoreConnections (present : List Text) (edges : List Edge) (connections : List Json) :
    Quiet (· = connections) (restoreConnections present edges connections) := by
  induction edges with
  | nil => exact quiet_done rfl
  | cons edge rest ih =>
    unfold restoreConnections
    split
    · exact ih
    · have noted : Quiet (fun _ => False) (Repaired.note .connectionRestored edge.id "missing connection emitted from template"
          (connections ++ [FlowTemplate.connectionJson edge]) : Projecting (List Json)) := quiet_note
      exact noted.bind fun _ none => none.elim

theorem quiet_syncConnections (contents : Fields) : Quiet (· = contents) (syncConnections contents) := by
  unfold syncConnections
  rw [Fields.get?_eq_lookup]
  dsimp only
  split
  · exact quiet_note
  · split
    · rename_i connections given
      split
      · exact quiet_stop
      · apply (quiet_restoreConnections _ _ _).bind
        rintro _ rfl
        exact quiet_done (Fields.put_of_lookup given)
    · exact quiet_stop

theorem quiet_syncTopology (contents : Fields) : Quiet (· = contents) (syncTopology contents) := by
  unfold syncTopology
  dsimp only
  split
  · exact quiet_note
  · split
    · split
      · exact quiet_stop
      · split
        · exact quiet_stop
        · exact quiet_syncConnections contents
    · exact quiet_stop

theorem quiet_syncServices (contents : Fields) :
    Quiet (fun services => contents.lookup ("controllerServices" : Text) = some (.list services)) (syncServices contents) := by
  have checked : ∀ (given : List Json) (left : List Json → Prop), (Part.find? given FlowTemplate.lookupService ≠ none → left given) →
      Quiet left (syncServices.checked given) := by
    intro given left held
    have restored : Quiet (fun services => services = given ∧ left given) (restoreLookupService given) := by
      unfold restoreLookupService
      split
      · rename_i service found
        exact quiet_done ⟨rfl, held (by simp [found])⟩
      · exact quiet_note
    apply restored.bind
    rintro _ ⟨rfl, there⟩
    split
    · exact quiet_stop
    · exact quiet_done there
  unfold syncServices
  rw [Fields.get?_eq_lookup]
  split
  · exact checked [] _ fun found => (found (by decide)).elim
  · rename_i services given
    refine checked services _ fun _ => ?_
    cases listed : contents.lookup ("controllerServices" : Text) with
    | none =>
      rw [listed] at given
      cases given
    | some value =>
      rw [listed, Option.getD_some] at given
      rw [given]
  · exact quiet_stop

theorem quiet_syncLookup (present : registry ≠ []) (distinct : (registry.map Prod.fst).Nodup) (service : Fields) :
    Quiet (fun synced => ∃ properties, service.lookup ("properties" : Text) = some (.object properties) ∧
      HasQueries registry properties ∧ synced = service.put "properties" (.object (syncedProperties registry properties)))
      (syncLookup registry service) := by
  refine ⟨fun silent synced made => ?_⟩
  cases made
  have held := (repairs_syncLookup_eq_nil_iff distinct).mp silent
  obtain ⟨⟨key, entry⟩, rest, rfl⟩ := List.exists_cons_of_ne_nil present
  have query := held.queries key entry List.lookup_cons_self
  have own : service.lookup ("properties" : Text) = some (.object (Part.properties service)) := by
    unfold Part.properties at query ⊢
    rw [Fields.get?_eq_lookup] at query ⊢
    split
    · assumption
    · rename_i none
      split at query
      · rename_i properties given
        exact absurd given (none properties)
      · cases query
  exact ⟨_, own, held, rfl⟩

theorem quiet_syncContents (present : registry ≠ []) (distinct : (registry.map Prod.fst).Nodup) (names : Json.Distinct (.object contents)) :
    Quiet (fun synced => Json.canonical (.object synced.2) = Json.canonical (.object contents))
      (syncContents registry specs target contents) := by
  have topology : Quiet (fun synced => synced = contents ∧ ∃ processors, contents.lookup ("processors" : Text) = some (.list processors))
      (syncTopology contents) := by
    refine ⟨fun silent synced made => ?_⟩
    have unchanged : synced = contents := (quiet_syncTopology contents).left silent synced made
    obtain ⟨-, -, same⟩ := topology_of_sync made
    have listed : synced.lookup ("processors" : Text) = some (.list (takenProcessors contents)) := by
      rw [same, Fields.lookup_put_of_ne (by decide), Fields.lookup_put]
    exact ⟨unchanged, _, unchanged ▸ listed⟩
  apply topology.bind
  rintro contents ⟨rfl, processors, listedProcessors⟩
  apply (quiet_syncServices contents).bind
  intro services listed
  apply (quiet_syncLookup present distinct _).bind
  rintro _ ⟨properties, own, held, rfl⟩
  cases found : Part.find? services FlowTemplate.lookupService with
  | none =>
    rw [found] at own
    cases own
  | some service =>
    rw [found, Option.getD_some] at own
    rw [Option.getD_some]
    have kept : ∀ value, (contents.put "controllerServices" value).lookup ("processors" : Text) = some (.list processors) := by
      intro value
      rw [Fields.lookup_put_of_ne (by decide), listedProcessors]
    apply (quiet_syncProcessors _).bind
    rintro ⟨key, _⟩ rfl
    refine quiet_done ?_
    rw [Fields.get?_eq_lookup, kept, Part.items, Fields.put_of_lookup (kept _)]
    exact canonical_resynced distinct names listed found own held

theorem quiet_project (present : registry ≠ []) (distinct : (registry.map Prod.fst).Nodup) (names : flow.Distinct)
    (given : flow ≠ .null) :
    Quiet (fun projected => projected.flow.canonical = flow.canonical) (project registry specs target flow) := by
  unfold project
  have start : Quiet (· = flow) (startFlow flow) := by
    unfold startFlow
    split
    · exact absurd rfl given
    · exact quiet_done rfl
  apply start.bind
  rintro flow rfl
  split
  · rename_i fields
    rw [Fields.get?_eq_lookup]
    split
    · rename_i contents there
      apply (quiet_syncContents present distinct (names.lookup there)).bind
      rintro ⟨key, result⟩ same
      exact quiet_done (Json.canonical_put there same)
    · exact quiet_stop
  · exact quiet_stop

end Unchanged

-- Of the keys of the look-up no other step speaks.
section OutsideLookup

def lookupKinds : List RepairKind := [.lookupRemoved, .lookupAdded, .lookupUpdated]

def OutsideLookup (repair : Repair) : Prop := repair.kind ∉ lookupKinds

theorem notes_outside {α : Type} {target detail : Text} {value : α} (outside : kind ∉ lookupKinds) :
    Notes OutsideLookup (.note kind target detail value : Projecting α) := notes_note outside

theorem notes_withProperties (processor : Fields) : Notes OutsideLookup (withProperties processor) := by
  unfold withProperties
  split
  · exact notes_done
  · exact notes_outside (by decide)

theorem notes_setProperty (name value : Text) (processor : Fields) : Notes OutsideLookup (setProperty name value processor) := by
  refine (notes_withProperties processor).bind fun processor => ?_
  dsimp only
  split
  · exact notes_done
  · exact notes_outside (by decide)

theorem notes_choose (processor : Fields) (current : Json) :
    Notes OutsideLookup (bindQuery.choose registry specs target processor current) := by
  have rebound : Notes OutsideLookup (bindQuery.rebind registry specs target processor current) := by
    unfold bindQuery.rebind
    split
    · exact notes_stop
    · exact notes_outside (by decide)
  unfold bindQuery.choose
  split
  · split
    · exact notes_done
    · exact rebound
  · exact rebound

theorem notes_bindQuery (processor : Fields) : Notes OutsideLookup (bindQuery registry specs target processor) := by
  refine (notes_withProperties processor).bind fun processor => ?_
  refine (notes_choose _ _).bind fun chosen => ?_
  dsimp only
  split
  · exact notes_done
  · refine (notes_setProperty _ _ _).bind fun _ => ?_
    exact (notes_setProperty _ _ _).bind fun _ => notes_done

theorem notes_onProcessor {α : Type} {change : Fields → Projecting (α × Fields)} (id : Text) (processors : List Json)
    (changes : ∀ processor, Notes OutsideLookup (change processor)) : Notes OutsideLookup (onProcessor id change processors) := by
  unfold onProcessor
  split
  · exact notes_stop
  · exact (changes _).bind fun _ => notes_done

theorem notes_syncProcessors (processors : List Json) :
    Notes OutsideLookup (syncProcessors registry specs target processors) := by
  refine (notes_onProcessor _ _ notes_bindQuery).bind fun bound => ?_
  refine (notes_onProcessor _ _ fun _ => (notes_setProperty _ _ _).bind fun _ => notes_done).bind fun read => ?_
  refine (notes_onProcessor _ _ fun _ => (notes_setProperty _ _ _).bind fun _ => notes_done).bind fun sunk => ?_
  exact notes_done

theorem notes_restoreConnections (present : List Text) (edges : List Edge) (connections : List Json) :
    Notes OutsideLookup (restoreConnections present edges connections) := by
  induction edges generalizing connections with
  | nil => exact notes_done
  | cons edge rest ih =>
    unfold restoreConnections
    split
    · exact ih connections
    · exact (notes_outside (by decide)).bind fun connections => ih connections

theorem notes_syncTopology (contents : Fields) : Notes OutsideLookup (syncTopology contents) := by
  have connected : Notes OutsideLookup (syncConnections contents) := by
    unfold syncConnections
    dsimp only
    split
    · exact notes_outside (by decide)
    · split
      · split
        · exact notes_stop
        · exact (notes_restoreConnections _ _ _).bind fun _ => notes_done
      · exact notes_stop
  unfold syncTopology
  dsimp only
  split
  · exact notes_outside (by decide)
  · split
    · split
      · exact notes_stop
      · split
        · exact notes_stop
        · exact connected
    · exact notes_stop

theorem notes_syncServices (contents : Fields) : Notes OutsideLookup (syncServices contents) := by
  have checked : ∀ given, Notes OutsideLookup (syncServices.checked given) := by
    intro given
    have restored : Notes OutsideLookup (restoreLookupService given) := by
      unfold restoreLookupService
      split
      · exact notes_done
      · exact notes_outside (by decide)
    refine restored.bind fun services => ?_
    split
    · exact notes_stop
    · exact notes_done
  unfold syncServices
  split
  · exact checked _
  · exact checked _
  · exact notes_stop

end OutsideLookup

def givenServices (flow : Json) : List Json :=
  Part.items ((flow.field? "flowContents").bind fun contents => contents.field? "controllerServices")

def lookupProperties (flow : Json) : Fields :=
  ((Part.find? (givenServices flow) FlowTemplate.lookupService).map Part.properties).getD []

def targets (kind : RepairKind) (repairs : List Repair) : List Text :=
  (repairs.filter fun repair => repair.kind = kind).map Repair.target

structure OnceEach (kind : RepairKind) (repairs : List Repair) (due : Text → Prop) : Prop where
  once : (targets kind repairs).Nodup
  all : ∀ key, key ∈ targets kind repairs ↔ due key

-- The repairs tell how the look-up's properties differ from the queries of a registry.
structure TellsLookup (registry : Registry) (old : Fields) (repairs : List Repair) : Prop where
  removed : OnceEach .lookupRemoved repairs fun key =>
    SqlId.isShaped key ∧ key ∈ old.map Prod.fst ∧ key ∉ registry.map Prod.fst
  added : OnceEach .lookupAdded repairs fun key => key ∈ registry.map Prod.fst ∧ key ∉ old.map Prod.fst
  updated : OnceEach .lookupUpdated repairs fun key =>
    ∃ entry value, registry.lookup key = some entry ∧ old.lookup key = some value ∧ value ≠ .text entry.sql

theorem targets_append (kind : RepairKind) (first later : List Repair) :
    targets kind (first ++ later) = targets kind first ++ targets kind later := by
  rw [targets, List.filter_append, List.map_append, targets, targets]

theorem targets_of_outside {repairs : List Repair} (outside : ∀ repair ∈ repairs, OutsideLookup repair) (listed : kind ∈ lookupKinds) :
    targets kind repairs = [] := by
  rw [targets, List.map_eq_nil_iff, List.filter_eq_nil_iff]
  intro repair member same
  exact outside repair member (of_decide_eq_true same ▸ listed)

theorem targets_removals (registry : Registry) (properties : Fields) : targets .lookupRemoved (removals registry properties) =
    (Text.sorted properties.keys).filter fun key => SqlId.isShaped key && !registry.has key := by
  simp [targets, removals, List.filter_map, Function.comp_def]

theorem targets_removals_of_ne (apart : kind ≠ .lookupRemoved) (registry : Registry) (properties : Fields) :
    targets kind (removals registry properties) = [] := by
  simp [targets, removals, List.filter_map, Function.comp_def, apart.symm]

theorem kind_lookupRepair (properties : Fields) (item : Text × Entry) : (lookupRepair? properties item).map Repair.kind =
    match properties.lookup item.1 with
    | none => some .lookupAdded
    | some value => if value = .text item.2.sql then none else some .lookupUpdated := by
  unfold lookupRepair?
  cases properties.lookup item.1 with
  | none => rfl
  | some value =>
    dsimp only
    split <;> rfl

theorem targets_lookupRepairs (kind : RepairKind) (registry : Registry) (properties : Fields) :
    targets kind (registry.filterMap (lookupRepair? properties)) =
      (registry.filter fun item => (lookupRepair? properties item).map Repair.kind = some kind).map Prod.fst := by
  unfold targets
  induction registry with
  | nil => rfl
  | cons item rest ih =>
    cases noted : lookupRepair? properties item with
    | none => simp [List.filterMap_cons_none noted, noted, ih]
    | some repair =>
      have own : repair.target = item.1 := by
        unfold lookupRepair? at noted
        grind
      by_cases same : repair.kind = kind
      · simp [List.filterMap_cons_some noted, noted, same, own, ih]
      · simp [List.filterMap_cons_some noted, noted, same, ih]

theorem onceEach_lookupRepairs (distinct : (registry.map Prod.fst).Nodup) (kind : RepairKind) (properties : Fields) :
    OnceEach kind (registry.filterMap (lookupRepair? properties)) fun key =>
      ∃ entry, registry.lookup key = some entry ∧ (lookupRepair? properties (key, entry)).map Repair.kind = some kind := by
  constructor
  · rw [targets_lookupRepairs]
    exact distinct.sublist (List.filter_sublist.map _)
  · intro key
    rw [targets_lookupRepairs, List.mem_map]
    constructor
    · rintro ⟨item, member, rfl⟩
      obtain ⟨present, noted⟩ := List.mem_filter.mp member
      exact ⟨item.2, lookup_of_mem distinct present, of_decide_eq_true noted⟩
    · rintro ⟨entry, found, noted⟩
      exact ⟨(key, entry), List.mem_filter.mpr ⟨mem_of_lookup found, decide_eq_true noted⟩, rfl⟩

theorem onceEach_removals (unique : (properties.map Prod.fst).Nodup) (registry : Registry) :
    OnceEach .lookupRemoved (removals registry properties) fun key =>
      SqlId.isShaped key ∧ key ∈ properties.map Prod.fst ∧ key ∉ registry.map Prod.fst := by
  constructor
  · rw [targets_removals]
    exact ((Sorting.sort_perm _ _).nodup_iff.mpr unique).sublist List.filter_sublist
  · intro key
    rw [targets_removals, List.mem_filter, Text.mem_sorted, Bool.and_eq_true, Bool.not_eq_true', ← Bool.not_eq_true, Registry.has_iff]
    exact and_left_comm

theorem OnceEach.congr {repairs others : List Repair} {due dueOther : Text → Prop} (held : OnceEach kind repairs due)
    (same : targets kind others = targets kind repairs) (meant : ∀ key, due key ↔ dueOther key) : OnceEach kind others dueOther :=
  ⟨same ▸ held.once, fun key => same ▸ (held.all key).trans (meant key)⟩

theorem tellsLookup_of_outside {first later : List Repair} (distinct : (registry.map Prod.fst).Nodup)
    (unique : (properties.map Prod.fst).Nodup) (before : ∀ repair ∈ first, OutsideLookup repair)
    (after : ∀ repair ∈ later, OutsideLookup repair) : TellsLookup registry properties
      (first ++ ((removals registry properties ++ registry.filterMap (lookupRepair? properties)) ++ later)) := by
  have own : ∀ kind ∈ lookupKinds,
      targets kind (first ++ ((removals registry properties ++ registry.filterMap (lookupRepair? properties)) ++ later)) =
        targets kind (removals registry properties) ++ targets kind (registry.filterMap (lookupRepair? properties)) := by
    intro kind listed
    simp only [targets_append, targets_of_outside before listed, targets_of_outside after listed, List.nil_append, List.append_nil]
  have noted := fun kind => onceEach_lookupRepairs distinct kind properties
  refine ⟨(onceEach_removals unique registry).congr ?_ fun _ => .rfl, (noted .lookupAdded).congr ?_ ?_,
    (noted .lookupUpdated).congr ?_ ?_⟩
  · have none : targets .lookupRemoved (registry.filterMap (lookupRepair? properties)) = [] := by
      rw [List.eq_nil_iff_forall_not_mem]
      intro key member
      obtain ⟨entry, -, kind⟩ := ((noted .lookupRemoved).all key).mp member
      rw [kind_lookupRepair] at kind
      grind
    rw [own _ (by decide), none, List.append_nil]
  · rw [own _ (by decide), targets_removals_of_ne (by decide), List.nil_append]
  · intro key
    simp only [kind_lookupRepair]
    rw [← lookup_eq_none_iff_not_mem, ← lookup_isSome_iff_mem, Option.isSome_iff_exists]
    grind
  · rw [own _ (by decide), targets_removals_of_ne (by decide), List.nil_append]
  · intro key
    simp only [kind_lookupRepair]
    grind

theorem properties_takenServices (contents : Fields) :
    Part.properties ((Part.find? (takenServices contents) FlowTemplate.lookupService).getD []) =
      ((Part.find? (Part.items (contents.lookup ("controllerServices" : Text))) FlowTemplate.lookupService).map
        Part.properties).getD [] := by
  unfold takenServices missingServices
  cases found : Part.find? (Part.items (contents.lookup ("controllerServices" : Text))) FlowTemplate.lookupService with
  | some service => simp [found]
  | none =>
    have absent : (Part.items (contents.lookup ("controllerServices" : Text))).find? (Part.hasId FlowTemplate.lookupService) = none := by
      rw [← Option.not_isSome_iff_eq_none, List.find?_isSome, ← Part.find?_isSome_iff, found]
      exact Bool.false_ne_true
    rw [Part.find?, List.find?_append, absent, Option.none_or]
    decide

theorem repairs_syncContents (synced : (syncContents registry specs target contents).outcome = .ok (key, result)) :
    ∃ first later, (∀ repair ∈ first, OutsideLookup repair) ∧ (∀ repair ∈ later, OutsideLookup repair) ∧
      (syncContents registry specs target contents).repairs = first ++ ((syncLookup registry
        ((Part.find? (takenServices contents) FlowTemplate.lookupService).getD [])).repairs ++ later) := by
  obtain ⟨topology, made, rest⟩ := Repaired.bind_eq_ok_iff.mp synced
  obtain ⟨services, listed, rest⟩ := Repaired.bind_eq_ok_iff.mp rest
  have split : (syncContents registry specs target contents).repairs =
      (syncTopology contents).repairs ++ ((syncServices topology).repairs ++
        ((syncLookup registry ((Part.find? services FlowTemplate.lookupService).getD [])).repairs ++ _)) :=
    (Repaired.repairs_bind made).trans (congrArg _ ((Repaired.repairs_bind listed).trans (congrArg _ (Repaired.repairs_bind rfl))))
  obtain ⟨-, -, rfl⟩ := topology_of_sync made
  obtain ⟨rfl, -⟩ := services_of_sync listed
  rw [takenServices_put_put, ← List.append_assoc] at split
  refine ⟨_, _, ?_, ?_, split⟩
  · intro repair member
    exact (List.mem_append.mp member).elim (notes_syncTopology contents repair) (notes_syncServices _ repair)
  · exact (notes_syncProcessors _).bind fun _ => notes_done

theorem nodup_lookupProperties (names : flow.Distinct) : ((lookupProperties flow).map Prod.fst).Nodup := by
  unfold lookupProperties
  cases found : Part.find? (givenServices flow) FlowTemplate.lookupService with
  | none => exact List.nodup_nil
  | some service =>
    have services : ∀ value ∈ (flow.field? "flowContents").bind fun contents => contents.field? "controllerServices",
        value.Distinct := by
      intro value member
      obtain ⟨contents, there, own⟩ := Option.bind_eq_some_iff.mp member
      exact (names.field? there).field? own
    have ofService := kept_of_find? (Json.inherited_distinct.items services) found
    exact (Json.distinct_object.mp (Json.inherited_distinct.properties ofService)).1

theorem tellsLookup_of_project (names : flow.Distinct) (distinct : (registry.map Prod.fst).Nodup) (given : flow ≠ .null)
    {projected : Projected} (projects : (project registry specs target flow).outcome = .ok projected) :
    TellsLookup registry (lookupProperties flow) (project registry specs target flow).repairs := by
  obtain ⟨fields, contents, result, same, there, synced, -⟩ := project_eq_ok projects
  rw [started, if_neg given] at same
  have whole : flow.field? "flowContents" = some (.object contents) := by
    rw [same]
    exact there
  obtain ⟨own, unfolded⟩ := project_of_contents registry specs target whole
  obtain ⟨first, later, before, after, split⟩ := repairs_syncContents synced
  have old : Part.properties ((Part.find? (takenServices contents) FlowTemplate.lookupService).getD []) = lookupProperties flow := by
    rw [properties_takenServices, lookupProperties, givenServices, whole]
    rfl
  rw [unfolded, Repaired.repairs_bind synced, split, syncLookup, old]
  simpa [Repaired.done] using tellsLookup_of_outside distinct (nodup_lookupProperties names) before after

-- What is as the flow that it was made from was steady already, so nothing was put right.
theorem repairs_of_canonical (present : registry ≠ []) (distinct : (registry.map Prod.fst).Nodup) (names : flow.Distinct)
    {projected : Projected} (projects : (project registry specs target flow).outcome = .ok projected)
    (same : projected.flow.canonical = flow.canonical) : (project registry specs target flow).repairs = [] := by
  obtain ⟨result, made, steady⟩ := steady_of_project present distinct projects
  have whole := kept_of_project Json.inherited_distinct present names projects
  have form := names.field?_canonical "flowContents"
  rw [← same, whole.field?_canonical, made, Option.map_some, Json.canonical_object, eq_comm, Option.map_eq_some_iff] at form
  obtain ⟨value, own, form⟩ := form
  obtain ⟨contents, rfl, sameContents⟩ := Json.canonical_eq_object_iff.mp form
  obtain ⟨fields, rfl, there⟩ := Json.field?_eq_some_iff.mp own
  have before := steady.of_canonical (whole.field? made) (names.lookup there) sameContents.symm
  obtain ⟨again, done, -⟩ := project_of_steady distinct target there before (names.lookup there)
  rw [done]
  rfl

-- The repairs of a projection tell exactly what it changed: they are none just when the flow
-- comes out as it went in, up to the order of fields, and they name every key of the look-up
-- that had to go, to come or to change, once. The specifications need not be those that the
-- registry was built of.
theorem repairs_of_projection {sources : List Spec} {projector : Projector} {projected : Projected}
    (built : Registry.build sources = .ok registry) (made : Projector.make registry specs target = some projector)
    (names : flow.Distinct) (given : flow ≠ .null) (run : (projector.run flow).1 = .ok projected) :
    ((projector.run flow).2.repairs = [] ↔ projected.flow.isReordering flow) ∧
      TellsLookup registry (lookupProperties flow) (projector.run flow).2.repairs := by
  obtain ⟨present, rfl⟩ := Projector.make_eq_some_iff.mp made
  have distinct := Registry.keys_of_build built
  have whole := kept_of_project Json.inherited_distinct present names run
  refine ⟨?_, tellsLookup_of_project names distinct given run⟩
  rw [Json.isReordering_iff whole names]
  constructor
  · intro silent
    exact (quiet_project present distinct names given).left silent projected run
  · exact repairs_of_canonical present distinct names run

def staleRegistry : Registry :=
  [("oracle.cdc.old.5m", ⟨"select 1", "OLD", "5m", "C"⟩), ("oracle.cdc.t.5m", ⟨"select 2", "T", "5m", "U"⟩)]

def staleFlow : Json := ((project staleRegistry [] none .null).outcome.toOption.map Projected.flow).getD .null

theorem repairs_of_stale : ∃ registry projector projected, Registry.build [Spec.Sample.small, Spec.Sample.rival] = .ok registry ∧
    Projector.make registry [Spec.Sample.small, Spec.Sample.rival] none = some projector ∧ staleFlow.Distinct ∧ staleFlow ≠ .null ∧
      (projector.run staleFlow).1 = .ok projected ∧ ¬ projected.flow.isReordering staleFlow ∧
      targets .lookupRemoved (projector.run staleFlow).2.repairs = [("oracle.cdc.old.5m" : Text)] ∧
      targets .lookupAdded (projector.run staleFlow).2.repairs = [("oracle.cdc.t.60m" : Text)] ∧
      targets .lookupUpdated (projector.run staleFlow).2.repairs = [("oracle.cdc.t.5m" : Text)] ∧
      TellsLookup registry (lookupProperties staleFlow) (projector.run staleFlow).2.repairs := by
  let specs := [Spec.Sample.small, Spec.Sample.rival]
  let registry : Registry := [Registry.item Spec.Sample.small "5m", Registry.item Spec.Sample.rival "60m"]
  have built : Registry.build specs = .ok registry := eq_ok_of_toOption (by decide +kernel)
  have names : staleFlow.Distinct := by decide +kernel
  have given : staleFlow ≠ .null := by decide +kernel
  have returns : (Projector.run ⟨registry, specs, none, []⟩ staleFlow).1.toOption.isSome := by decide +kernel
  obtain ⟨projected, run⟩ := eq_ok_of_isSome returns
  have noted : (Projector.run ⟨registry, specs, none, []⟩ staleFlow).2.repairs ≠ [] ∧
      targets .lookupRemoved (Projector.run ⟨registry, specs, none, []⟩ staleFlow).2.repairs = [("oracle.cdc.old.5m" : Text)] ∧
      targets .lookupAdded (Projector.run ⟨registry, specs, none, []⟩ staleFlow).2.repairs = [("oracle.cdc.t.60m" : Text)] ∧
      targets .lookupUpdated (Projector.run ⟨registry, specs, none, []⟩ staleFlow).2.repairs = [("oracle.cdc.t.5m" : Text)] := by
    decide +kernel
  obtain ⟨told, removed, added, updated⟩ := noted
  have made : Projector.make registry specs none = some ⟨registry, specs, none, []⟩ := rfl
  obtain ⟨silent, tells⟩ := repairs_of_projection built made names given run
  exact ⟨registry, _, projected, built, made, names, given, run, fun same => told (silent.mpr same), removed, added, updated, tells⟩

end ChangeCapture.Projection
