import ChangeCapture.Flow.Projection
import ChangeCapture.Proofs.Flow.Parts
import ChangeCapture.Proofs.Flow.Repair
import ChangeCapture.Proofs.Outcome
import Mathlib.Data.List.Perm.Basic

namespace ChangeCapture.Projection

open FlowTemplate (Edge)

variable {contents result : Fields} {items processors connections services : List Json}

def HasProcessors (processors : List Json) : Prop :=
  (processors.map Part.id?).Perm (FlowTemplate.processorIds.map fun id => some (.text id))

def HasConnections (connections : List Json) : Prop :=
  (connections.map Part.edge?).Perm (FlowTemplate.edges.map some)

def HasServices (services : List Json) : Prop :=
  ∀ id ∈ FlowTemplate.serviceIds, (Part.find? services id).isSome

def Fresh (seen names : List Text) : Prop := (∀ name ∈ names, name ∉ seen) ∧ names.Nodup

theorem fresh_nil (seen : List Text) : Fresh seen [] := ⟨by simp, List.nodup_nil⟩

theorem fresh_cons_iff {seen names : List Text} {name : Text} :
    Fresh seen (name :: names) ↔ name ∉ seen ∧ Fresh (seen ++ [name]) names := by
  simp only [Fresh, List.forall_mem_cons, List.nodup_cons, List.mem_append, List.mem_singleton, not_or]
  constructor
  · intro fresh
    obtain ⟨⟨first, each⟩, apart, distinct⟩ := fresh
    exact ⟨first, fun other member => ⟨each other member, fun same => apart (same ▸ member)⟩, distinct⟩
  · intro fresh
    obtain ⟨first, each, distinct⟩ := fresh
    exact ⟨⟨first, fun other member => (each other member).1⟩, fun member => (each name member).2 rfl, distinct⟩

theorem checkProcessors_cons_iff {seen all : List Text} {processor : Json} :
    checkProcessors seen (processor :: items) = .ok all ↔ ∃ id : Text, Part.id? processor = some (.text id) ∧
      id ∈ FlowTemplate.processorIds ∧ id ∉ seen ∧ checkProcessors (seen ++ [id]) items = .ok all := by
  constructor
  · intro passed
    unfold checkProcessors at passed
    split at passed
    · rename_i id named
      split at passed
      · cases passed
      · rename_i known
        split at passed
        · cases passed
        · rename_i unseen
          exact ⟨id, named, by simpa using known, by simpa using unseen, passed⟩
    · cases passed
  · intro step
    obtain ⟨id, named, known, unseen, passed⟩ := step
    simp [checkProcessors, named, known, unseen, passed]

theorem checkProcessors_eq_ok_iff {seen all : List Text} : checkProcessors seen items = .ok all ↔
    ∃ ids : List Text, items.map Part.id? = ids.map (fun id => some (.text id)) ∧ all = seen ++ ids ∧
      (∀ id ∈ ids, id ∈ FlowTemplate.processorIds) ∧ Fresh seen ids := by
  induction items generalizing seen with
  | nil =>
    constructor
    · intro passed
      cases passed
      exact ⟨[], rfl, by simp, by simp, fresh_nil _⟩
    · intro passed
      obtain ⟨ids, none, rfl, -⟩ := passed
      have empty : ids = [] := by simpa using none.symm
      simp [checkProcessors, empty]
  | cons processor rest ih =>
    rw [checkProcessors_cons_iff]
    constructor
    · intro step
      obtain ⟨id, named, known, unseen, passed⟩ := step
      obtain ⟨ids, same, rfl, each, fresh⟩ := ih.mp passed
      exact ⟨id :: ids, by simp [named, same], by simp, List.forall_mem_cons.mpr ⟨known, each⟩,
        fresh_cons_iff.mpr ⟨unseen, fresh⟩⟩
    · intro whole
      obtain ⟨ids, same, rfl, each, fresh⟩ := whole
      cases ids with
      | nil => cases same
      | cons id ids =>
        simp only [List.map_cons, List.cons.injEq] at same
        obtain ⟨known, each⟩ := List.forall_mem_cons.mp each
        obtain ⟨unseen, fresh⟩ := fresh_cons_iff.mp fresh
        exact ⟨id, same.1, known, unseen, ih.mpr ⟨ids, same.2, by simp, each, fresh⟩⟩

theorem exists_map_of_perm {α β : Type} {f : α → β} {values : List β} {expected : List α}
    (perm : values.Perm (expected.map f)) : ∃ found : List α, values = found.map f ∧ found.Perm expected :=
  (congrFun (congrFun (List.eq_map_comp_perm f) values) expected).mpr perm

theorem hasProcessors_iff : HasProcessors processors ↔ ∃ seen, checkProcessors [] processors = .ok seen ∧
    (FlowTemplate.processorIds.filter fun id => !seen.contains id) = [] := by
  have distinct : FlowTemplate.processorIds.Nodup := by decide
  constructor
  · intro held
    obtain ⟨ids, same, perm⟩ := exists_map_of_perm held
    refine ⟨ids, checkProcessors_eq_ok_iff.mpr ⟨ids, same, rfl, fun id member => perm.mem_iff.mp member, by simp,
      perm.nodup_iff.mpr distinct⟩, ?_⟩
    rw [List.filter_eq_nil_iff]
    intro id member
    simpa using perm.mem_iff.mpr member
  · intro held
    obtain ⟨seen, passed, complete⟩ := held
    obtain ⟨ids, same, rfl, each, -, unique⟩ := checkProcessors_eq_ok_iff.mp passed
    rw [HasProcessors, same]
    refine List.Perm.map _ ((List.perm_ext_iff_of_nodup unique distinct).mpr fun id => ⟨each id, ?_⟩)
    intro member
    simpa using List.filter_eq_nil_iff.mp complete id member

theorem edge?_eq_some_iff {id : Text} {edge : Edge} : edge? id = some edge ↔ edge ∈ FlowTemplate.edges ∧ edge.id = id := by
  constructor
  · intro found
    exact ⟨List.mem_of_find?_eq_some found, by simpa using List.find?_some found⟩
  · intro held
    obtain ⟨member, rfl⟩ := held
    cases found : edge? edge.id with
    | none =>
      have absent := List.find?_eq_none.mp found edge member
      simp at absent
    | some other =>
      have same : other.id = edge.id := by simpa using List.find?_some found
      rw [FlowTemplate.edge_of_id (List.mem_of_find?_eq_some found) member same]

theorem checkConnections_cons_iff {seen all : List Text} {connection : Json} :
    checkConnections seen (connection :: items) = .ok all ↔ ∃ edge, Part.edge? connection = some edge ∧
      edge ∈ FlowTemplate.edges ∧ edge.id ∉ seen ∧ checkConnections (seen ++ [edge.id]) items = .ok all := by
  constructor
  · intro passed
    unfold checkConnections at passed
    split at passed
    · rename_i id named
      split at passed
      · cases passed
      · rename_i edge known
        obtain ⟨listed, rfl⟩ := edge?_eq_some_iff.mp known
        split at passed
        · cases passed
        · rename_i unseen
          dsimp only at passed
          split at passed
          · rename_i ends
            refine ⟨edge, Part.edge?_eq_some_iff.mpr ⟨named, ?_, ?_⟩, listed, by simpa using unseen, passed⟩
            · cases there : Part.end? connection "source" <;> simp_all
            · cases there : Part.end? connection "destination" <;> simp_all
          · cases passed
    · cases passed
    · cases passed
    · cases passed
  · intro step
    obtain ⟨edge, own, listed, unseen, passed⟩ := step
    obtain ⟨named, source, destination⟩ := Part.edge?_eq_some_iff.mp own
    have known := edge?_eq_some_iff.mpr ⟨listed, rfl⟩
    simp [checkConnections, named, source, destination, known, unseen, passed]

theorem checkConnections_eq_ok_iff {seen all : List Text} : checkConnections seen items = .ok all ↔
    ∃ found : List Edge, items.map Part.edge? = found.map some ∧ all = seen ++ found.map Edge.id ∧
      (∀ edge ∈ found, edge ∈ FlowTemplate.edges) ∧ Fresh seen (found.map Edge.id) := by
  induction items generalizing seen with
  | nil =>
    constructor
    · intro passed
      cases passed
      exact ⟨[], rfl, by simp, by simp, fresh_nil _⟩
    · intro passed
      obtain ⟨found, none, rfl, -⟩ := passed
      have empty : found = [] := by simpa using none.symm
      simp [checkConnections, empty]
  | cons connection rest ih =>
    rw [checkConnections_cons_iff]
    constructor
    · intro step
      obtain ⟨edge, own, listed, unseen, passed⟩ := step
      obtain ⟨found, same, rfl, each, fresh⟩ := ih.mp passed
      exact ⟨edge :: found, by simp [own, same], by simp, List.forall_mem_cons.mpr ⟨listed, each⟩,
        fresh_cons_iff.mpr ⟨unseen, fresh⟩⟩
    · intro whole
      obtain ⟨found, same, rfl, each, fresh⟩ := whole
      cases found with
      | nil => cases same
      | cons edge found =>
        simp only [List.map_cons, List.cons.injEq] at same
        obtain ⟨listed, each⟩ := List.forall_mem_cons.mp each
        obtain ⟨unseen, fresh⟩ := fresh_cons_iff.mp fresh
        exact ⟨edge, same.1, listed, unseen, ih.mpr ⟨found, same.2, by simp, each, fresh⟩⟩

-- The lists that a projection starts from: the flow's own, with parts of the template
-- where it lacks them.
def takenProcessors (contents : Fields) : List Json :=
  match Part.items (contents.lookup ("processors" : Text)) with
  | [] => FlowTemplate.processors.map Prod.snd
  | given => given

def missingConnections (given : List Json) : List Json :=
  (FlowTemplate.edges.filter fun edge => !given.any (Part.hasId edge.id)).map FlowTemplate.connectionJson

def takenConnections (contents : Fields) : List Json :=
  Part.items (contents.lookup ("connections" : Text)) ++ missingConnections (Part.items (contents.lookup ("connections" : Text)))

def missingServices (given : List Json) : List Json :=
  match Part.find? given FlowTemplate.lookupService with
  | some _ => []
  | none => (FlowTemplate.service? FlowTemplate.lookupService).toList

def takenServices (contents : Fields) : List Json :=
  Part.items (contents.lookup ("controllerServices" : Text)) ++
    missingServices (Part.items (contents.lookup ("controllerServices" : Text)))

theorem takenServices_put_put (contents : Fields) (processors connections : Json) :
    takenServices ((contents.put "processors" processors).put "connections" connections) = takenServices contents := by
  simp only [takenServices, Fields.lookup_put_of_ne (show ("controllerServices" : Text) ≠ "connections" by decide),
    Fields.lookup_put_of_ne (show ("controllerServices" : Text) ≠ "processors" by decide)]

def From (given : Option Json) (template : List Json) (part : Json) : Prop := part ∈ Part.items given ∨ part ∈ template

theorem from_takenProcessors {processor : Json} (member : processor ∈ takenProcessors contents) :
    From (contents.lookup ("processors" : Text)) (FlowTemplate.processors.map Prod.snd) processor := by
  unfold takenProcessors at member
  split at member
  · exact .inr member
  · exact .inl member

theorem from_takenConnections {connection : Json} (member : connection ∈ takenConnections contents) :
    From (contents.lookup ("connections" : Text)) (FlowTemplate.edges.map FlowTemplate.connectionJson) connection := by
  rcases List.mem_append.mp member with given | missing
  · exact .inl given
  · obtain ⟨edge, listed, rfl⟩ := List.mem_map.mp missing
    exact .inr (List.mem_map_of_mem (List.mem_filter.mp listed).1)

theorem from_takenServices {service : Json} (member : service ∈ takenServices contents) :
    From (contents.lookup ("controllerServices" : Text)) (FlowTemplate.services.map Prod.snd) service := by
  rcases List.mem_append.mp member with given | missing
  · exact .inl given
  · have template : (FlowTemplate.service? FlowTemplate.lookupService).toList ⊆ FlowTemplate.services.map Prod.snd := by
      decide
    unfold missingServices at missing
    split at missing
    · cases missing
    · exact .inr (template missing)

theorem items_of_absent {value : Option Json} (absent : isAbsent value) : Part.items value = [] := by
  rcases value with - | value
  · rfl
  · cases value with
    | list items => simpa [isAbsent, Json.isEmptyLike, Part.items] using absent
    | null | bool | int | double | text | object => rfl

theorem outcome_restoreConnections (present : List Text) (edges : List Edge) (connections : List Json) :
    (restoreConnections present edges connections).outcome =
      .ok (connections ++ (edges.filter fun edge => !present.contains edge.id).map FlowTemplate.connectionJson) := by
  induction edges generalizing connections with
  | nil => simp [restoreConnections]
  | cons edge rest ih =>
    unfold restoreConnections
    split
    · rename_i there
      rw [ih, List.filter_cons_of_neg (by simpa using there)]
    · rename_i missing
      refine Repaired.bind_eq_ok_iff.mpr ⟨_, rfl, ?_⟩
      rw [ih, List.filter_cons_of_pos (by simpa using missing), List.map_cons, List.append_assoc, List.singleton_append]

theorem restoreConnections_of_present {present : List Text} {edges : List Edge} (connections : List Json)
    (there : ∀ edge ∈ edges, edge.id ∈ present) : restoreConnections present edges connections = .done connections := by
  induction edges with
  | nil => rfl
  | cons edge rest ih =>
    have first : present.contains edge.id := by simpa using there edge (List.mem_cons_self ..)
    rw [restoreConnections, if_pos first, ih fun one member => there one (List.mem_cons_of_mem _ member)]

theorem hasConnections_template : HasConnections (FlowTemplate.edges.map FlowTemplate.connectionJson) := .refl _

theorem edges_nodup : FlowTemplate.edges.Nodup := by decide

theorem hasConnections_restored {found : List Edge} (same : connections.map Part.edge? = found.map some)
    (each : ∀ edge ∈ found, edge ∈ FlowTemplate.edges) (distinct : (found.map Edge.id).Nodup) :
    HasConnections (connections ++ (FlowTemplate.edges.filter fun edge =>
      !(found.map Edge.id).contains edge.id).map FlowTemplate.connectionJson) := by
  have restored : ((FlowTemplate.edges.filter fun edge => !(found.map Edge.id).contains edge.id).map
      FlowTemplate.connectionJson).map Part.edge? =
      (FlowTemplate.edges.filter fun edge => !(found.map Edge.id).contains edge.id).map some := by
    rw [List.map_map]
    exact List.map_congr_left fun edge _ => rfl
  rw [HasConnections, List.map_append, same, restored, ← List.map_append]
  refine List.Perm.map _ ((List.perm_ext_iff_of_nodup ?_ edges_nodup).mpr ?_)
  · rw [List.nodup_append]
    refine ⟨distinct.of_map, edges_nodup.filter _, ?_⟩
    rintro edge present other missing rfl
    simp only [List.mem_filter, Bool.not_eq_true', List.contains_eq_mem, decide_eq_false_iff_not] at missing
    exact missing.2 (List.mem_map_of_mem present)
  · intro edge
    simp only [List.mem_append, List.mem_filter, Bool.not_eq_true', List.contains_eq_mem, decide_eq_false_iff_not,
      List.mem_map, not_exists, not_and]
    constructor
    · rintro (present | missing)
      · exact each edge present
      · exact missing.1
    · intro listed
      by_cases present : edge ∈ found
      · exact .inl present
      · refine .inr ⟨listed, fun other there equal => present ?_⟩
        rwa [← FlowTemplate.edge_of_id (each other there) listed equal]

theorem contains_of_edges {found : List Edge} (same : connections.map Part.edge? = found.map some) (id : Text) :
    (found.map Edge.id).contains id = connections.any (Part.hasId id) := by
  rw [Bool.eq_iff_iff, List.contains_iff_mem, List.mem_map, List.any_eq_true]
  constructor
  · intro held
    obtain ⟨edge, member, rfl⟩ := held
    have read : some edge ∈ connections.map Part.edge? := same ▸ List.mem_map_of_mem member
    obtain ⟨connection, present, own⟩ := List.mem_map.mp read
    exact ⟨connection, present, Part.hasId_iff_id?.mpr (Part.edge?_eq_some_iff.mp own).1⟩
  · intro held
    obtain ⟨connection, present, named⟩ := held
    have read : Part.edge? connection ∈ found.map some := same ▸ List.mem_map_of_mem present
    obtain ⟨edge, member, own⟩ := List.mem_map.mp read
    exact ⟨edge, member, Part.hasId_unique (Part.hasId_iff_id?.mpr (Part.edge?_eq_some_iff.mp own.symm).1) named⟩

theorem list_cases (value : Option Json) : isAbsent value ∨
    ¬ isAbsent value ∧ ((∃ items, items ≠ [] ∧ value = some (.list items)) ∨ ∀ items, value ≠ some (.list items)) := by
  by_cases absent : isAbsent value
  · exact .inl absent
  · refine .inr ⟨absent, ?_⟩
    rcases value with - | value
    · exact .inr (by simp)
    · cases value with
      | list items =>
        refine .inl ⟨items, ?_, rfl⟩
        rintro rfl
        exact absent rfl
      | null | bool | int | double | text | object => exact .inr (by simp)

theorem outcome_syncConnections_absent (absent : isAbsent (contents.lookup ("connections" : Text))) :
    (syncConnections contents).outcome = .ok (contents.put "connections" FlowTemplate.allConnections) := by
  simp [syncConnections, absent]

theorem outcome_syncConnections_list (given : contents.lookup ("connections" : Text) = some (.list connections))
    (present : connections ≠ []) : (syncConnections contents).outcome = (checkConnections [] connections).map fun seen =>
      contents.put "connections" (.list (connections ++
        (FlowTemplate.edges.filter fun edge => !seen.contains edge.id).map FlowTemplate.connectionJson)) := by
  simp only [syncConnections, Fields.get?_eq_lookup, given, isAbsent, Option.getD_some, Json.isEmptyLike,
    List.isEmpty_iff, present, if_false]
  cases checkConnections [] connections with
  | error stop => rfl
  | ok seen => exact Repaired.bind_eq_ok_iff.mpr ⟨_, outcome_restoreConnections seen FlowTemplate.edges connections, rfl⟩

theorem syncConnections_of_other (present : ¬ isAbsent (contents.lookup ("connections" : Text)))
    (other : ∀ connections, contents.lookup ("connections" : Text) ≠ some (.list connections)) :
    syncConnections contents = drifted .connectionsNoList := by
  unfold syncConnections
  rw [Fields.get?_eq_lookup]
  dsimp only
  rw [if_neg present]
  split
  · rename_i items given
    exact absurd given (other items)
  · rfl

-- Connections are kept, and those of the template that are missing come after them.
theorem connections_of_sync (synced : (syncConnections contents).outcome = .ok result) :
    HasConnections (takenConnections contents) ∧ result = contents.put "connections" (.list (takenConnections contents)) := by
  rcases list_cases (contents.lookup ("connections" : Text)) with absent | ⟨present, ⟨items, filled, given⟩ | other⟩
  · cases (outcome_syncConnections_absent absent).symm.trans synced
    have taken : takenConnections contents = FlowTemplate.edges.map FlowTemplate.connectionJson := by
      rw [takenConnections, items_of_absent absent]
      rfl
    rw [taken]
    exact ⟨hasConnections_template, rfl⟩
  · rw [outcome_syncConnections_list given filled, map_eq_ok_iff] at synced
    obtain ⟨seen, passed, rfl⟩ := synced
    obtain ⟨found, same, rfl, each, -, distinct⟩ := checkConnections_eq_ok_iff.mp passed
    have held := hasConnections_restored same each distinct
    simp only [List.nil_append, contains_of_edges same] at held ⊢
    rw [takenConnections, given]
    exact ⟨held, rfl⟩
  · rw [syncConnections_of_other present other] at synced
    cases synced

theorem syncConnections_of_held (given : contents.lookup ("connections" : Text) = some (.list connections))
    (held : HasConnections connections) : syncConnections contents = .done contents := by
  obtain ⟨found, same, perm⟩ := exists_map_of_perm held
  have passed : checkConnections [] connections = .ok (found.map Edge.id) := by
    refine checkConnections_eq_ok_iff.mpr ⟨found, same, rfl, fun edge member => perm.mem_iff.mp member, by simp, ?_⟩
    have distinct : (FlowTemplate.edges.map Edge.id).Nodup := by decide
    exact (perm.map Edge.id).nodup_iff.mpr distinct
  have there : ∀ edge ∈ FlowTemplate.edges, edge.id ∈ found.map Edge.id := fun edge member =>
    List.mem_map_of_mem (perm.mem_iff.mpr member)
  cases connections with
  | nil => exact absurd held.length_eq (by decide)
  | cons first rest =>
    simp only [syncConnections, Fields.get?_eq_lookup, given, isAbsent, Option.getD_some, Json.isEmptyLike,
      List.isEmpty_cons, Bool.false_eq_true, if_false, passed, restoreConnections_of_present _ there, Repaired.done_bind,
      Fields.put_of_lookup given]
    rfl

theorem syncTopology_of_chain (given : contents.lookup ("processors" : Text) = some (.list processors))
    (chain : HasProcessors processors) : syncTopology contents = syncConnections contents := by
  obtain ⟨seen, passed, complete⟩ := hasProcessors_iff.mp chain
  cases processors with
  | nil => exact absurd chain.length_eq (by decide)
  | cons first rest =>
    simp only [syncTopology, Fields.get?_eq_lookup, given, isAbsent, Option.getD_some, Json.isEmptyLike,
      List.isEmpty_cons, Bool.false_eq_true, false_and, if_false, passed, complete]

theorem syncTopology_of_unfit
    (present : ¬ (isAbsent (contents.lookup ("processors" : Text)) ∧ isAbsent (contents.lookup ("connections" : Text))))
    (unfit : ∀ processors, contents.lookup ("processors" : Text) = some (.list processors) → ¬ HasProcessors processors) :
    ∃ drift, syncTopology contents = drifted drift := by
  simp only [syncTopology, Fields.get?_eq_lookup, present, if_false]
  split
  · rename_i first rest given
    split
    · exact ⟨_, rfl⟩
    · rename_i seen passed
      split
      · exact ⟨_, rfl⟩
      · rename_i complete
        exact absurd (hasProcessors_iff.mpr ⟨seen, passed, complete⟩) (unfit _ given)
  · exact ⟨_, rfl⟩

theorem takenProcessors_of_held (given : contents.lookup ("processors" : Text) = some (.list processors))
    (chain : HasProcessors processors) : takenProcessors contents = processors := by
  rw [takenProcessors, given]
  cases processors with
  | nil => exact absurd chain.length_eq (by decide)
  | cons first rest => rfl

-- A flow with neither processors nor connections takes over both lists; any other
-- keeps its processors.
theorem topology_of_sync (synced : (syncTopology contents).outcome = .ok result) :
    HasProcessors (takenProcessors contents) ∧ HasConnections (takenConnections contents) ∧
      result = (contents.put "processors" (.list (takenProcessors contents))).put "connections"
        (.list (takenConnections contents)) := by
  by_cases absent : isAbsent (contents.lookup ("processors" : Text)) ∧ isAbsent (contents.lookup ("connections" : Text))
  · have chain : HasProcessors (FlowTemplate.processors.map Prod.snd) := .refl _
    simp only [syncTopology, Fields.get?_eq_lookup, absent, and_self, if_true] at synced
    cases synced
    rw [takenProcessors, takenConnections, items_of_absent absent.1, items_of_absent absent.2]
    exact ⟨chain, hasConnections_template, rfl⟩
  · by_cases fit : ∃ processors, contents.lookup ("processors" : Text) = some (.list processors) ∧ HasProcessors processors
    · obtain ⟨processors, given, chain⟩ := fit
      rw [syncTopology_of_chain given chain] at synced
      obtain ⟨held, rfl⟩ := connections_of_sync synced
      rw [takenProcessors_of_held given chain, Fields.put_of_lookup given]
      exact ⟨chain, held, rfl⟩
    · obtain ⟨drift, stops⟩ := syncTopology_of_unfit absent fun processors given chain => fit ⟨processors, given, chain⟩
      rw [stops] at synced
      cases synced

theorem syncTopology_of_held (given : contents.lookup ("processors" : Text) = some (.list processors))
    (chain : HasProcessors processors) (linked : contents.lookup ("connections" : Text) = some (.list connections))
    (held : HasConnections connections) : syncTopology contents = .done contents := by
  rw [syncTopology_of_chain given chain, syncConnections_of_held linked held]

theorem outcome_restoreLookupService (given : List Json) :
    (restoreLookupService given).outcome = .ok (given ++ missingServices given) := by
  unfold restoreLookupService missingServices
  cases Part.find? given FlowTemplate.lookupService with
  | none => rfl
  | some service => simp

theorem services_of_sync (synced : (syncServices contents).outcome = .ok services) :
    services = takenServices contents ∧ HasServices services := by
  have checked : ∀ given, (syncServices.checked given).outcome = .ok services →
      services = given ++ missingServices given ∧ HasServices services := by
    intro given synced
    obtain ⟨restored, made, complete⟩ := Repaired.bind_eq_ok_iff.mp synced
    cases (outcome_restoreLookupService given).symm.trans made
    split at complete
    · cases complete
    · rename_i present
      cases complete
      refine ⟨rfl, fun id member => ?_⟩
      simpa [Option.isSome_iff_ne_none] using List.filter_eq_nil_iff.mp present id member
  unfold syncServices at synced
  rw [Fields.get?_eq_lookup] at synced
  unfold takenServices
  generalize contents.lookup ("controllerServices" : Text) = listed at synced ⊢
  rcases listed with - | value
  · exact checked [] synced
  · cases value with
    | null => exact checked [] synced
    | list given => exact checked given synced
    | bool | int | double | text | object => cases synced

theorem syncServices_of_held (given : contents.lookup ("controllerServices" : Text) = some (.list services))
    (held : HasServices services) : syncServices contents = .done services := by
  obtain ⟨fields, found⟩ := Option.isSome_iff_exists.mp (held FlowTemplate.lookupService (by decide))
  have complete : (FlowTemplate.serviceIds.filter fun id => (Part.find? services id).isNone) = [] :=
    List.filter_eq_nil_iff.mpr fun id member => by simpa [Option.isSome_iff_ne_none] using held id member
  simp [syncServices, given, syncServices.checked, restoreLookupService, found, complete]

-- From lists that lack nothing nothing else is taken.

theorem missingConnections_of_held (held : HasConnections connections) : missingConnections connections = [] := by
  rw [missingConnections, List.map_eq_nil_iff, List.filter_eq_nil_iff]
  intro edge member
  have read : some edge ∈ connections.map Part.edge? := held.mem_iff.mpr (List.mem_map_of_mem member)
  obtain ⟨connection, present, own⟩ := List.mem_map.mp read
  have named := Part.hasId_iff_id?.mpr (Part.edge?_eq_some_iff.mp own).1
  have there : connections.any (Part.hasId edge.id) := List.any_eq_true.mpr ⟨connection, present, named⟩
  simp [there]

theorem takenConnections_of_held (given : contents.lookup ("connections" : Text) = some (.list connections))
    (held : HasConnections connections) : takenConnections contents = connections := by
  rw [takenConnections, given, Part.items, missingConnections_of_held held, List.append_nil]

theorem takenServices_of_held (given : contents.lookup ("controllerServices" : Text) = some (.list services))
    (held : HasServices services) : takenServices contents = services := by
  obtain ⟨fields, found⟩ := Option.isSome_iff_exists.mp (held FlowTemplate.lookupService (by decide))
  rw [takenServices, given, Part.items, missingServices, found, List.append_nil]

end ChangeCapture.Projection
