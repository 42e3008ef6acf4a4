import ChangeCapture.Proofs.Contract.Checks
import ChangeCapture.Proofs.Outcome

namespace ChangeCapture.Contract

open FlowTemplate (Edge)

variable {table : SpecTable} {contents : Fields} {entries : Entries} {items : List Json}

theorem checkLookup_eq_nil_iff : checkLookup contents entries = [] ↔
    ∃ service, partIn (contents.lookup ("controllerServices" : Text)) FlowTemplate.lookupService = some service ∧
      (∀ item ∈ entries, (Part.properties service).lookup item.1 = some (.text item.2.sql)) ∧
      ∀ key ∈ (Part.properties service).map Prod.fst, SqlId.isShaped key → key ∈ entries.map Prod.fst := by
  unfold checkLookup
  rw [Fields.get?_eq_lookup]
  split
  · rename_i absent
    simp [absent]
  · rename_i service found
    simp only [found, Option.some.injEq, exists_eq_left', List.append_eq_nil_iff, List.filterMap_eq_nil_iff,
      mem_inOrder, List.map_eq_nil_iff, List.filter_eq_nil_iff, Text.mem_sorted, Fields.keys]
    refine and_congr (forall₂_congr fun item member => ?_) (forall₂_congr fun key member => ?_)
    · split
      · rename_i missing
        simp [missing]
      · rename_i value there
        rw [there, Option.some.injEq]
        split <;> simp_all
    · rw [← hasKey_iff]
      cases SqlId.isShaped key <;> cases hasKey entries key <;> simp

theorem isNamed_iff {names : List Text} {id : Json} : isNamed names id ↔ id ∈ names.map Json.text := by
  cases id <;> simp [isNamed]

-- Six counts of one and no foreign identifier: the identifiers are the template's,
-- in some order.
theorem checkProcessorIds_eq_nil_iff {ids : List Json} :
    checkProcessorIds ids = [] ↔ ids.Perm (FlowTemplate.processorIds.map .text) := by
  have distinct : (FlowTemplate.processorIds.map Json.text).Nodup := by decide +kernel
  simp only [checkProcessorIds, List.append_eq_nil_iff, List.filterMap_eq_nil_iff, List.map_eq_nil_iff,
    List.filter_eq_nil_iff, Bool.not_eq_true', Bool.not_eq_false, isNamed_iff]
  constructor
  · intro held
    obtain ⟨counted, known⟩ := held
    apply List.perm_iff_count.mpr
    intro id
    by_cases named : id ∈ FlowTemplate.processorIds.map Json.text
    · obtain ⟨name, member, rfl⟩ := List.mem_map.mp named
      have once := counted name member
      rw [List.count_eq_one_of_mem distinct named]
      by_contra other
      simp [other] at once
    · rw [List.count_eq_zero_of_not_mem named]
      exact List.count_eq_zero_of_not_mem fun member => named (known id member)
  · intro perm
    refine ⟨fun name member => ?_, fun id member => perm.mem_iff.mp member⟩
    rw [perm.count_eq, List.count_eq_one_of_mem distinct (List.mem_map_of_mem member)]
    rfl

theorem readConnections_cons {item : Json} {violations : List Violation} {found : List (Text × Ends)}
    (read : readConnections (item :: items) = .ok (violations, found)) : ∃ before earlier,
      readConnections items = .ok (before, earlier) ∧ (found = earlier ∨ ∃ name, Part.hasId name item ∧
        found = (name, (Part.end? item "source").getD .null, (Part.end? item "destination").getD .null) :: earlier) := by
  unfold readConnections at read
  split at read
  · rename_i same
    cases same
  · rename_i fields tail same
    cases same
    split at read
    · cases read
    · cases read
    · rename_i id noList noObject
      split at read
      · cases read
      · rename_i before earlier known
        refine ⟨before, earlier, known, ?_⟩
        split at read
        · rename_i name text
          split at read
          · cases read
            split
            · exact .inl rfl
            · refine .inr ⟨name, ?_, rfl⟩
              rw [Part.hasId_iff_id?]
              simp only [Fields.get?_eq_lookup] at text
              simpa [Part.id?] using (Option.getD_eq_iff.mp text).resolve_right (by simp)
          · cases read
            exact .inl rfl
        · cases read
          exact .inl rfl
  · rename_i other tail noObject same
    cases same
    exact ⟨_, _, read, .inl rfl⟩

theorem found_of_readConnections {violations : List Violation} {found : List (Text × Ends)} {name : Text} {ends : Ends}
    (read : readConnections items = .ok (violations, found)) (there : found.lookup name = some ends) :
    ∃ item ∈ items, Part.hasId name item ∧ (Part.end? item "source").getD .null = ends.1 ∧
      (Part.end? item "destination").getD .null = ends.2 := by
  induction items generalizing violations found with
  | nil =>
    cases read
    cases there
  | cons item rest ih =>
    obtain ⟨before, earlier, known, same⟩ := readConnections_cons read
    have later : earlier.lookup name = some ends → ∃ one ∈ item :: rest, Part.hasId name one ∧
        (Part.end? one "source").getD .null = ends.1 ∧ (Part.end? one "destination").getD .null = ends.2 := by
      intro there
      obtain ⟨one, member, named⟩ := ih known there
      exact ⟨one, List.mem_cons_of_mem _ member, named⟩
    rcases same with rfl | ⟨other, named, rfl⟩
    · exact later there
    · by_cases here : name = other
      · subst here
        simp only [List.lookup_cons_self, Option.some.injEq] at there
        subst there
        exact ⟨item, List.mem_cons_self .., named, rfl, rfl⟩
      · have apart : (name == other) = false := by simpa using here
        rw [List.lookup_cons, apart] at there
        exact later there

theorem readConnections_of_edges (known : ∀ item ∈ items, ∃ edge ∈ FlowTemplate.edges, Part.edge? item = some edge) :
    ∃ found, readConnections items = .ok ([], found) ∧ ∀ edge ∈ FlowTemplate.edges,
      (some edge ∈ items.map Part.edge? → (found.lookup edge.id).isSome) ∧
        ∀ ends, found.lookup edge.id = some ends → ends = (.text edge.source, .text edge.destination) := by
  induction items with
  | nil => exact ⟨[], rfl, fun edge member => by simp⟩
  | cons item rest ih =>
    obtain ⟨found, read, ends⟩ := ih fun one member => known one (List.mem_cons_of_mem _ member)
    obtain ⟨edge, member, ofItem⟩ := known item (List.mem_cons_self ..)
    obtain ⟨ofId, ofSource, ofDestination⟩ := Part.edge?_eq_some_iff.mp ofItem
    obtain ⟨fields, rfl, named⟩ := Part.hasId_iff.mp (Part.hasId_iff_id?.mpr ofId)
    have listed : (Projection.edge? edge.id).isSome := List.find?_isSome.mpr ⟨edge, member, by simp⟩
    by_cases there : (found.lookup edge.id).isSome
    · refine ⟨found, by simp [readConnections, named, read, listed, there], fun other present => ⟨?_, (ends other present).2⟩⟩
      rw [List.map_cons, List.mem_cons, ofItem, Option.some.injEq]
      rintro (rfl | later)
      · exact there
      · exact (ends other present).1 later
    · refine ⟨(edge.id, (.text edge.source, .text edge.destination)) :: found,
        by simp [readConnections, named, read, listed, there, ofSource, ofDestination], fun other present => ?_⟩
      rw [List.map_cons, List.mem_cons, ofItem, Option.some.injEq]
      by_cases same : other = edge
      · subst same
        simp
      · have apart : (other.id == edge.id) = false := by
          simpa using fun equal => same (FlowTemplate.edge_of_id present member equal)
        rw [List.lookup_cons, apart]
        exact ⟨fun read => (ends other present).1 (read.resolve_left same), (ends other present).2⟩

theorem checkEdge_eq_none_iff {edge : Edge} {found : List (Text × Ends)} : checkEdge found edge = none ↔
    found.lookup edge.id = some (.text edge.source, .text edge.destination) := by
  unfold checkEdge
  split
  · rename_i absent
    simp [absent]
  · rename_i source destination there
    rw [there]
    split <;> simp_all

-- Five objects among which every edge of the template is found are these edges, in
-- some order: nothing that the check passes over can be among them.
theorem checkConnections_eq_nil_iff : checkConnections items = .ok [] ↔
    (items.map Part.edge?).Perm (FlowTemplate.edges.map some) := by
  have distinct : (FlowTemplate.edges.map some).Nodup := by decide
  constructor
  · intro clean
    cases read : readConnections items with
    | error stop => simp [checkConnections, read, Except.map] at clean
    | ok result =>
      rcases result with ⟨foreign, found⟩
      simp only [checkConnections, read, Except.map, Except.ok.injEq, List.append_eq_nil_iff, List.filterMap_eq_nil_iff,
        checkEdge_eq_none_iff] at clean
      obtain ⟨⟨-, counted⟩, ends⟩ := clean
      have length : items.length = FlowTemplate.edges.length := by
        by_contra other
        simp [other] at counted
      have inside : FlowTemplate.edges.map some ⊆ items.map Part.edge? := by
        intro one member
        obtain ⟨edge, listed, rfl⟩ := List.mem_map.mp member
        obtain ⟨item, present, named, source, destination⟩ := found_of_readConnections read (ends edge listed)
        refine List.mem_map.mpr ⟨item, present, Part.edge?_eq_some_iff.mpr ⟨Part.hasId_iff_id?.mp named, ?_, ?_⟩⟩
        · exact (Option.getD_eq_iff.mp source).resolve_right (by simp)
        · exact (Option.getD_eq_iff.mp destination).resolve_right (by simp)
      exact ((List.subperm_of_subset distinct inside).perm_of_length_le (by simp [length])).symm
  · intro perm
    have known : ∀ item ∈ items, ∃ edge ∈ FlowTemplate.edges, Part.edge? item = some edge := by
      intro item member
      obtain ⟨edge, listed, same⟩ := List.mem_map.mp (perm.mem_iff.mp (List.mem_map_of_mem (f := Part.edge?) member))
      exact ⟨edge, listed, same.symm⟩
    obtain ⟨found, read, ends⟩ := readConnections_of_edges known
    have length : items.length = FlowTemplate.edges.length := by simpa using perm.length_eq
    have all : FlowTemplate.edges.filterMap (checkEdge found) = [] := by
      refine List.filterMap_eq_nil_iff.mpr fun edge listed => checkEdge_eq_none_iff.mpr ?_
      obtain ⟨present, canonical⟩ := ends edge listed
      obtain ⟨there, found⟩ := Option.isSome_iff_exists.mp (present (perm.mem_iff.mpr (List.mem_map_of_mem listed)))
      rw [found, canonical there found]
    simp [checkConnections, read, Except.map, length, all]

theorem checkServices_eq_nil_iff {services : Option Json} :
    checkServices services = [] ↔ ∀ id ∈ FlowTemplate.serviceIds, (partIn services id).isSome := by
  simp only [checkServices, List.filterMap_eq_nil_iff]
  apply forall₂_congr
  intro id member
  cases partIn services id <;> simp

theorem checkTopology_eq_nil_iff : checkTopology contents = .ok [] ↔
    checkProcessorIds (idsOf (Part.items (contents.lookup ("processors" : Text)))) = [] ∧
      checkConnections (Part.items (contents.lookup ("connections" : Text))) = .ok [] ∧
      checkServices (contents.lookup ("controllerServices" : Text)) = [] := by
  simp only [checkTopology, Fields.get?_eq_lookup, map_eq_ok_iff, List.append_eq_nil_iff]
  constructor
  · intro clean
    obtain ⟨_, connected, ⟨ids, rfl⟩, services⟩ := clean
    exact ⟨ids, connected, services⟩
  · intro clean
    obtain ⟨ids, connected, services⟩ := clean
    exact ⟨[], connected, ⟨ids, rfl⟩, services⟩

theorem checkProcessors_of_bound {key : Text} {entry : Entry} (found : entries.lookup key = some entry)
    (bound : valueOf (propertiesIn (contents.lookup ("processors" : Text)) FlowTemplate.binding)
      FlowTemplate.sqlIdProperty = .text key) : checkProcessors table contents entries = [] ↔
    valueOf (propertiesIn (contents.lookup ("processors" : Text)) FlowTemplate.reader) FlowTemplate.watermarkProperty =
        .text (((specOf table entry).map fun spec => spec.table.watermark).getD entry.watermark) ∧
      valueOf (propertiesIn (contents.lookup ("processors" : Text)) FlowTemplate.sink)
        FlowTemplate.operationProperty = .text FlowTemplate.upsert ∧
      ∀ spec, specOf table entry = some spec →
        valueOf (propertiesIn (contents.lookup ("processors" : Text)) FlowTemplate.binding)
          FlowTemplate.idFieldProperty = .text spec.table.primaryKey := by
  simp only [checkProcessors, Fields.get?_eq_lookup, bound, found, Option.bind_some]
  cases specOf table entry with
  | none => simp
  | some spec => simp

theorem checkProcessors_eq_nil_iff : checkProcessors table contents entries = [] ↔
    ∃ key entry, valueOf (propertiesIn (contents.lookup ("processors" : Text)) FlowTemplate.binding)
        FlowTemplate.sqlIdProperty = .text key ∧
      entries.lookup key = some entry ∧
      valueOf (propertiesIn (contents.lookup ("processors" : Text)) FlowTemplate.reader) FlowTemplate.watermarkProperty =
        .text (((specOf table entry).map fun spec => spec.table.watermark).getD entry.watermark) ∧
      valueOf (propertiesIn (contents.lookup ("processors" : Text)) FlowTemplate.sink)
        FlowTemplate.operationProperty = .text FlowTemplate.upsert ∧
      ∀ spec, specOf table entry = some spec →
        valueOf (propertiesIn (contents.lookup ("processors" : Text)) FlowTemplate.binding)
          FlowTemplate.idFieldProperty = .text spec.table.primaryKey := by
  constructor
  · intro clean
    cases bound : valueOf (propertiesIn (contents.lookup ("processors" : Text)) FlowTemplate.binding)
        FlowTemplate.sqlIdProperty with
    | text key =>
      cases found : entries.lookup key with
      | none => simp [checkProcessors, Fields.get?_eq_lookup, bound, found] at clean
      | some entry => exact ⟨key, entry, rfl, found, (checkProcessors_of_bound found bound).mp clean⟩
    | null | bool | int | double | list | object => simp [checkProcessors, Fields.get?_eq_lookup, bound] at clean
  · intro held
    obtain ⟨key, entry, bound, found, checks⟩ := held
    exact (checkProcessors_of_bound found bound).mpr checks

theorem checkFlow_eq_nil_iff {flow : Json} : checkFlow table entries flow = .ok [] ↔
    ∃ contents, flow.field? "flowContents" = some (.object contents) ∧ checkLookup contents entries = [] ∧
      checkTopology contents = .ok [] ∧ checkProcessors table contents entries = [] := by
  unfold checkFlow
  constructor
  · intro clean
    split at clean
    · rename_i contents given
      simp only [map_eq_ok_iff, List.append_eq_nil_iff] at clean
      obtain ⟨_, topology, ⟨lookup, rfl⟩, processors⟩ := clean
      exact ⟨contents, given, lookup, topology, processors⟩
    · cases clean
  · intro clean
    obtain ⟨contents, given, lookup, topology, processors⟩ := clean
    simp [given, lookup, topology, processors, Except.map]

end ChangeCapture.Contract
