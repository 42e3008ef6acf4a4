import ChangeCapture.Proofs.Contract.FlowChecks

namespace ChangeCapture.Contract

-- What the verifier stands for, said on the documents and not through its checks.

variable {table : SpecTable} {registry contents : Fields} {specs : List Spec}

-- An entry under its key: it says what the key says, a specification of its table
-- has its window, and its query is ordered by that specification's watermark alone
-- and uses each end of the window once.
structure EntryAgrees (spec : Spec) (key : Text) (entry : Entry) : Prop where
  names : SqlId.parse? key = some (entry.table, entry.window)
  window : entry.window ∈ spec.windows.options
  ordered : Ordering.isBy entry.sql spec.table.watermark
  rangeFrom : Text.occurrences (placeholder rangeFrom) entry.sql = 1
  rangeTo : Text.occurrences (placeholder rangeTo) entry.sql = 1
  watermark : entry.watermark = spec.table.watermark

def LookupAgrees (registry contents : Fields) : Prop :=
  ∃ service, partIn (contents.lookup ("controllerServices" : Text)) FlowTemplate.lookupService = some service ∧
    (∀ field ∈ registry, ∃ entry, entryOf field.2 = .ok entry ∧
      (Part.properties service).lookup field.1 = some (.text entry.sql)) ∧
    ∀ key ∈ (Part.properties service).map Prod.fst, SqlId.isShaped key → key ∈ registry.map Prod.fst

def BindingAgrees (table : SpecTable) (registry contents : Fields) : Prop :=
  let properties := propertiesIn (contents.lookup ("processors" : Text))
  ∃ key data entry spec, valueOf (properties FlowTemplate.binding) FlowTemplate.sqlIdProperty = .text key ∧
    registry.lookup key = some data ∧ entryOf data = .ok entry ∧ table.lookup entry.table = some spec ∧
    valueOf (properties FlowTemplate.reader) FlowTemplate.watermarkProperty = .text spec.table.watermark ∧
    valueOf (properties FlowTemplate.binding) FlowTemplate.idFieldProperty = .text spec.table.primaryKey ∧
    valueOf (properties FlowTemplate.sink) FlowTemplate.operationProperty = .text FlowTemplate.upsert

structure Agreement (table : SpecTable) (registry contents : Fields) : Prop where
  covered : ∀ item ∈ table, ∀ window ∈ item.2.windows.options, SqlId.make item.1 window ∈ registry.map Prod.fst
  entries : ∀ field ∈ registry, ∃ entry spec, entryOf field.2 = .ok entry ∧ table.lookup entry.table = some spec ∧
    EntryAgrees spec field.1 entry
  lookup : LookupAgrees registry contents
  processors : (idsOf (Part.items (contents.lookup ("processors" : Text)))).Perm (FlowTemplate.processorIds.map .text)
  connections : ((Part.items (contents.lookup ("connections" : Text))).map Part.edge?).Perm (FlowTemplate.edges.map some)
  services : ∀ id ∈ FlowTemplate.serviceIds, (partIn (contents.lookup ("controllerServices" : Text)) id).isSome
  binding : BindingAgrees table registry contents

theorem specOf_of_names {key : Text} {entry : Entry} (names : SqlId.parse? key = some (entry.table, entry.window)) :
    specOf table entry = table.lookup entry.table := by
  rw [specOf, SqlId.upper_of_parse? names]

-- The registry's part of the checks. A specification is found for every entry once
-- its names have been decoded, so the entry's own watermark is never taken instead.
theorem entries_agree_iff (readable : ∀ field ∈ registry, ∃ entry, entryOf field.2 = .ok entry) :
    ((∀ item ∈ entriesOf registry, checkKey table item.1 = []) ∧
      ∀ item ∈ entriesOf registry, checkQuery (specOf table item.2) item.1 item.2 = [] ∧ checkNames item.1 item.2 = []) ↔
    ∀ field ∈ registry, ∃ entry spec, entryOf field.2 = .ok entry ∧ table.lookup entry.table = some spec ∧
      EntryAgrees spec field.1 entry := by
  simp only [checkKey_eq_nil_iff, checkQuery_eq_nil_iff, checkNames_eq_nil_iff]
  constructor
  · rintro ⟨known, agree⟩ field member
    obtain ⟨entry, read⟩ := readable field member
    have listed : (field.1, entry) ∈ entriesOf registry := mem_entriesOf.mpr ⟨field.2, member, read⟩
    obtain ⟨⟨watermark, same, ordered, ofFrom, ofTo, own⟩, names⟩ := agree _ listed
    obtain ⟨spec, found, window⟩ := known _ listed _ _ names
    rw [specOf_of_names names, found] at same
    cases same
    exact ⟨entry, spec, read, found, names, window, ordered, ofFrom, ofTo, own⟩
  · intro agree
    have each : ∀ item ∈ entriesOf registry, ∃ spec, table.lookup item.2.table = some spec ∧ EntryAgrees spec item.1 item.2 := by
      intro item member
      obtain ⟨data, present, read⟩ := mem_entriesOf.mp member
      obtain ⟨entry, spec, again, found, good⟩ := agree _ present
      cases read.symm.trans again
      exact ⟨spec, found, good⟩
    refine ⟨fun item member name window decoded => ?_, fun item member => ?_⟩
    · obtain ⟨spec, found, good⟩ := each item member
      cases good.names.symm.trans decoded
      exact ⟨spec, found, good.window⟩
    · obtain ⟨spec, found, good⟩ := each item member
      refine ⟨⟨spec.table.watermark, ?_, good.ordered, good.rangeFrom, good.rangeTo, good.watermark⟩, good.names⟩
      rw [specOf_of_names good.names, found]
      rfl

theorem lookup_agrees_iff (readable : ∀ field ∈ registry, ∃ entry, entryOf field.2 = .ok entry) :
    checkLookup contents (entriesOf registry) = [] ↔ LookupAgrees registry contents := by
  rw [checkLookup_eq_nil_iff, keys_entriesOf readable, LookupAgrees]
  refine exists_congr fun service => and_congr_right fun _ => and_congr_left fun _ => ?_
  constructor
  · intro held field member
    obtain ⟨entry, read⟩ := readable field member
    exact ⟨entry, read, held (field.1, entry) (mem_entriesOf.mpr ⟨field.2, member, read⟩)⟩
  · intro held item member
    obtain ⟨data, present, read⟩ := mem_entriesOf.mp member
    obtain ⟨entry, again, there⟩ := held _ present
    cases read.symm.trans again
    exact there

theorem readable_of_agree (agree : ∀ field ∈ registry, ∃ entry spec, entryOf field.2 = .ok entry ∧
      table.lookup entry.table = some spec ∧ EntryAgrees spec field.1 entry) :
    ∀ field ∈ registry, ∃ entry, entryOf field.2 = .ok entry := by
  intro field member
  obtain ⟨entry, -, read, -⟩ := agree field member
  exact ⟨entry, read⟩

theorem binding_agrees_iff (agree : ∀ field ∈ registry, ∃ entry spec, entryOf field.2 = .ok entry ∧
      table.lookup entry.table = some spec ∧ EntryAgrees spec field.1 entry) :
    checkProcessors table contents (entriesOf registry) = [] ↔ BindingAgrees table registry contents := by
  have readable := readable_of_agree agree
  have specFound : ∀ {key data entry}, registry.lookup key = some data → entryOf data = .ok entry →
      ∃ spec, table.lookup entry.table = some spec ∧ specOf table entry = some spec := by
    intro key data entry found read
    obtain ⟨_, spec, again, ofTable, good⟩ := agree _ (mem_of_lookup found)
    cases read.symm.trans again
    exact ⟨spec, ofTable, by rw [specOf_of_names good.names, ofTable]⟩
  rw [checkProcessors_eq_nil_iff]
  constructor
  · intro held
    obtain ⟨key, entry, bound, there, column, operation, idField⟩ := held
    rw [lookup_entriesOf readable] at there
    obtain ⟨data, found, read⟩ := Option.bind_eq_some_iff.mp there
    obtain ⟨entry', read'⟩ := readable _ (mem_of_lookup found)
    rw [read'] at read
    cases read
    obtain ⟨spec, ofTable, same⟩ := specFound found read'
    rw [same] at column
    exact ⟨key, data, entry, spec, bound, found, read', ofTable, column, idField spec same, operation⟩
  · intro held
    obtain ⟨key, data, entry, spec, bound, found, read, ofTable, column, idField, operation⟩ := held
    obtain ⟨spec', ofTable', same⟩ := specFound found read
    cases ofTable.symm.trans ofTable'
    refine ⟨key, entry, bound, ?_, by rw [same]; exact column, operation, ?_⟩
    · rw [lookup_entriesOf readable, found]
      simp [read, Except.toOption]
    · intro other there
      cases same.symm.trans there
      exact idField

theorem flow_agrees_iff {flow : Json} (agree : ∀ field ∈ registry, ∃ entry spec, entryOf field.2 = .ok entry ∧
      table.lookup entry.table = some spec ∧ EntryAgrees spec field.1 entry)
    (covered : ∀ item ∈ table, ∀ window ∈ item.2.windows.options, SqlId.make item.1 window ∈ registry.map Prod.fst) :
    checkFlow table (entriesOf registry) flow = .ok [] ↔
      ∃ contents, flow.field? "flowContents" = some (.object contents) ∧ Agreement table registry contents := by
  have readable := readable_of_agree agree
  rw [checkFlow_eq_nil_iff]
  refine exists_congr fun contents => and_congr_right fun _ => ?_
  rw [checkTopology_eq_nil_iff, lookup_agrees_iff readable, checkProcessorIds_eq_nil_iff, checkConnections_eq_nil_iff,
    checkServices_eq_nil_iff, binding_agrees_iff agree]
  constructor
  · intro clean
    obtain ⟨lookup, ⟨ids, connections, services⟩, binding⟩ := clean
    exact ⟨covered, agree, lookup, ids, connections, services, binding⟩
  · intro agreement
    exact ⟨agreement.lookup, ⟨agreement.processors, agreement.connections, agreement.services⟩, agreement.binding⟩

-- The verifier finds nothing exactly when registry and flow have their parts and
-- these agree with the specifications.
theorem violations_eq_nil_iff {document flow : Json} : violations specs document flow = .ok [] ↔
    ∃ registry contents, document = .object registry ∧ flow.field? "flowContents" = some (.object contents) ∧
      Agreement (Projection.byTable specs) registry contents := by
  simp only [violations, map_eq_ok_iff, List.append_eq_nil_iff, checkCoverage, checkEntries, List.flatMap_eq_nil_iff,
    mem_inOrder]
  constructor
  · intro clean
    obtain ⟨_, ofFlow, ⟨⟨ofDocument, windows, keys⟩, queries⟩, rfl⟩ := clean
    obtain ⟨registry, rfl, readable⟩ := checkDocument_eq_nil_iff.mp ofDocument
    rw [Contract.readable, checkWindows_eq_nil_iff, keys_entriesOf readable] at windows
    have agree := (entries_agree_iff readable).mp ⟨keys, queries⟩
    obtain ⟨contents, given, agreement⟩ := (flow_agrees_iff agree windows).mp ofFlow
    exact ⟨registry, contents, rfl, given, agreement⟩
  · intro agrees
    obtain ⟨registry, contents, rfl, given, agreement⟩ := agrees
    have readable := readable_of_agree agreement.entries
    obtain ⟨keys, queries⟩ := (entries_agree_iff readable).mpr agreement.entries
    have ofFlow := (flow_agrees_iff agreement.entries agreement.covered).mpr ⟨contents, given, agreement⟩
    have ofDocument := checkDocument_eq_nil_iff.mpr ⟨registry, rfl, readable⟩
    have windows : checkWindows (Projection.byTable specs) (entriesOf registry) = [] := by
      rw [checkWindows_eq_nil_iff, keys_entriesOf readable]
      exact agreement.covered
    exact ⟨[], ofFlow, ⟨⟨ofDocument, windows, keys⟩, queries⟩, rfl⟩

end ChangeCapture.Contract
