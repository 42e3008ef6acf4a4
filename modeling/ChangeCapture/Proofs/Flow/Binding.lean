import ChangeCapture.Proofs.Flow.ByTable
import ChangeCapture.Proofs.Flow.Topology
import ChangeCapture.Proofs.Outcome
import ChangeCapture.Proofs.Registry.Building

namespace ChangeCapture.Projection

variable {registry : Registry} {specs : List Spec} {target : Option Text} {processor fields : Fields} {key name value : Text}
  {processors result : List Json} {entry : Entry} {spec : Spec} {spec? : Option Spec}

section Property

theorem properties_of_lookup {properties : Fields} (given : fields.lookup ("properties" : Text) = some (.object properties)) :
    Part.properties fields = properties := by
  simp [Part.properties, given]

theorem outcome_withProperties (processor : Fields) : (withProperties processor).outcome =
    .ok (processor.put "properties" (.object (Part.properties processor))) := by
  unfold withProperties
  cases given : processor.lookup ("properties" : Text) with
  | none => simp [given, Part.properties]
  | some found =>
    cases found with
    | object properties => simp [given, Part.properties, Fields.put_of_lookup given]
    | null | bool | int | double | text | list => simp [given, Part.properties]

theorem lookup_putProperty (processor : Fields) (name value : Text) :
    (putProperty processor name value).lookup ("properties" : Text) =
      some (.object ((Part.properties processor).put name (.text value))) := Fields.lookup_put ..

@[simp] theorem properties_putProperty (processor : Fields) (name value : Text) :
    Part.properties (putProperty processor name value) = (Part.properties processor).put name (.text value) :=
  properties_of_lookup (lookup_putProperty processor name value)

@[simp] theorem id_putProperty (processor : Fields) (name value : Text) :
    (putProperty processor name value).lookup ("identifier" : Text) = processor.lookup ("identifier" : Text) :=
  Fields.lookup_put_of_ne (by decide) ..

theorem putProperty_withProperties (processor : Fields) (name value : Text) :
    putProperty (processor.put "properties" (.object (Part.properties processor))) name value =
      putProperty processor name value := by
  have same := properties_of_lookup (Fields.lookup_put processor "properties" (.object (Part.properties processor)))
  rw [putProperty, same, Fields.put_put, putProperty]

theorem outcome_setProperty (name value : Text) (processor : Fields) :
    (setProperty name value processor).outcome = .ok (putProperty processor name value) := by
  refine Repaired.bind_eq_ok_iff.mpr ⟨_, outcome_withProperties processor, ?_⟩
  have same := properties_of_lookup (Fields.lookup_put processor "properties" (.object (Part.properties processor)))
  dsimp only
  split
  · rename_i current
    rw [same] at current
    cases given : (Part.properties processor).lookup name with
    | none => simp [given] at current
    | some found =>
      simp only [given, Option.getD_some] at current
      subst current
      simp [putProperty, Fields.put_of_lookup given]
  · simp [putProperty_withProperties]

theorem withProperties_of_held (given : processor.lookup ("properties" : Text) = some (.object fields)) :
    withProperties processor = .done processor := by
  simp [withProperties, given]

theorem setProperty_of_held (given : processor.lookup ("properties" : Text) = some (.object fields))
    (held : fields.lookup name = some (.text value)) : setProperty name value processor = .done processor := by
  simp [setProperty, withProperties_of_held given, properties_of_lookup given, held]

end Property

def HasProperty (items : List Json) (id name value : Text) : Prop :=
  ∃ fields properties, Part.find? items id = some fields ∧ fields.lookup ("properties" : Text) = some (.object properties) ∧
    properties.lookup name = some (.text value)

structure Bound (key : Text) (entry : Entry) (spec : Spec) (processors : List Json) : Prop where
  key : HasProperty processors FlowTemplate.binding FlowTemplate.sqlIdProperty key
  index : HasProperty processors FlowTemplate.binding FlowTemplate.indexProperty spec.destination.index
  idField : HasProperty processors FlowTemplate.binding FlowTemplate.idFieldProperty spec.table.primaryKey
  watermark : HasProperty processors FlowTemplate.reader FlowTemplate.watermarkProperty entry.watermark
  operation : HasProperty processors FlowTemplate.sink FlowTemplate.operationProperty FlowTemplate.upsert

-- The same of an entry whose table may have no specification: nothing follows for
-- the index then.
structure BoundBy (key : Text) (entry : Entry) (spec? : Option Spec) (processors : List Json) : Prop where
  key : HasProperty processors FlowTemplate.binding FlowTemplate.sqlIdProperty key
  index : ∀ spec ∈ spec?, HasProperty processors FlowTemplate.binding FlowTemplate.indexProperty spec.destination.index
  idField : ∀ spec ∈ spec?, HasProperty processors FlowTemplate.binding FlowTemplate.idFieldProperty spec.table.primaryKey
  watermark : HasProperty processors FlowTemplate.reader FlowTemplate.watermarkProperty entry.watermark
  operation : HasProperty processors FlowTemplate.sink FlowTemplate.operationProperty FlowTemplate.upsert

theorem boundBy_some_iff : BoundBy key entry (some spec) processors ↔ Bound key entry spec processors := by
  constructor
  · intro bound
    exact ⟨bound.key, bound.index spec rfl, bound.idField spec rfl, bound.watermark, bound.operation⟩
  · intro bound
    exact ⟨bound.key, by rintro _ ⟨⟩; exact bound.index, by rintro _ ⟨⟩; exact bound.idField, bound.watermark,
      bound.operation⟩

theorem onProcessor_eq_ok_iff {α : Type} {id : Text} {change : Fields → Projecting (α × Fields)} {one : α} :
    (onProcessor id change processors).outcome = .ok (one, result) ↔ ∃ processor changed,
      Part.find? processors id = some processor ∧ (change processor).outcome = .ok (one, changed) ∧
        result = Part.replaceFirst id changed processors := by
  unfold onProcessor
  cases found : Part.find? processors id with
  | none => simp [drifted]
  | some processor =>
    simp only [Repaired.bind_eq_ok_iff, Option.some.injEq]
    constructor
    · intro held
      obtain ⟨⟨one', changed⟩, made, same⟩ := held
      cases same
      exact ⟨processor, changed, rfl, made, rfl⟩
    · intro held
      obtain ⟨_, changed, rfl, made, rfl⟩ := held
      exact ⟨(one, changed), made, rfl⟩

theorem onProcessor_of_done {α : Type} {id : Text} {change : Fields → Projecting (α × Fields)} {one : α}
    (found : Part.find? processors id = some processor) (unchanged : change processor = .done (one, processor)) :
    onProcessor id change processors = .done (one, processors) := by
  simp [onProcessor, found, unchanged, Part.replaceFirst_of_find? found]

theorem has_of_firstDefault {order : List Spec} (found : firstDefault registry order = .ok (some key)) : registry.has key := by
  induction order with
  | nil => cases found
  | cons spec rest ih =>
    obtain ⟨window, -, found⟩ := bind_eq_ok_iff.mp found
    dsimp only at found
    split at found
    · rename_i present
      cases found
      exact present
    · exact ih found

theorem has_of_defaultKey (present : registry ≠ []) (found : defaultKey registry specs target = .ok key) :
    registry.has key := by
  obtain ⟨first?, default, same⟩ := bind_eq_ok_iff.mp found
  cases same
  cases first? with
  | some first => exact has_of_firstDefault default
  | none =>
    obtain ⟨item, rest, rfl⟩ := List.exists_cons_of_ne_nil present
    exact Registry.has_iff.mpr (List.mem_cons_self ..)

def Known (registry : Registry) (specs : List Spec) : Prop :=
  ∀ key entry, registry.lookup key = some entry → ∃ spec, (byTable specs).lookup entry.table = some spec

theorem choose_eq_ok (present : registry ≠ []) {changed : Fields}
    (chosen : (bindQuery.choose registry specs target
      (processor.put "properties" (.object (Part.properties processor)))
      (((Part.properties processor).lookup FlowTemplate.sqlIdProperty).getD .null)).outcome = .ok (key, changed)) :
    registry.has key ∧ changed = putProperty processor FlowTemplate.sqlIdProperty key := by
  have rebound : ∀ current, (bindQuery.rebind registry specs target
      (processor.put "properties" (.object (Part.properties processor))) current).outcome = .ok (key, changed) →
      registry.has key ∧ changed = putProperty processor FlowTemplate.sqlIdProperty key := by
    intro current chosen
    unfold bindQuery.rebind at chosen
    split at chosen
    · cases chosen
    · rename_i default found
      cases chosen
      exact ⟨has_of_defaultKey present found, putProperty_withProperties ..⟩
  unfold bindQuery.choose at chosen
  split at chosen
  · rename_i kept current
    split at chosen
    · rename_i there
      cases chosen
      refine ⟨there, ?_⟩
      cases given : (Part.properties processor).lookup FlowTemplate.sqlIdProperty with
      | none => simp [given] at current
      | some found =>
        simp only [given, Option.getD_some] at current
        subst current
        simp [putProperty, Fields.put_of_lookup given]
    · exact rebound _ chosen
  · exact rebound _ chosen

-- The binding of the first processor: the query, and what follows from its table if
-- that has a specification.
def boundTo (key : Text) (spec : Spec) (processor : Fields) : Fields :=
  putProperty (putProperty (putProperty processor FlowTemplate.sqlIdProperty key) FlowTemplate.indexProperty
    spec.destination.index) FlowTemplate.idFieldProperty spec.table.primaryKey

def boundBy (key : Text) (spec? : Option Spec) (processor : Fields) : Fields :=
  match spec? with
  | some spec => boundTo key spec processor
  | none => putProperty processor FlowTemplate.sqlIdProperty key

@[simp] theorem id_boundBy (key : Text) (spec? : Option Spec) (processor : Fields) :
    (boundBy key spec? processor).lookup ("identifier" : Text) = processor.lookup ("identifier" : Text) := by
  cases spec? <;> simp [boundBy, boundTo]

theorem bindQuery_eq_ok (present : registry ≠ []) {changed : Fields}
    (binds : (bindQuery registry specs target processor).outcome = .ok (key, changed)) :
    ∃ entry, registry.lookup key = some entry ∧
      changed = boundBy key ((byTable specs).lookup entry.table) processor := by
  obtain ⟨_, made, rest⟩ := Repaired.bind_eq_ok_iff.mp binds
  cases (outcome_withProperties processor).symm.trans made
  have own := properties_of_lookup (Fields.lookup_put processor "properties" (.object (Part.properties processor)))
  obtain ⟨⟨chosen, middle⟩, choice, rest⟩ := Repaired.bind_eq_ok_iff.mp rest
  rw [own] at choice
  obtain ⟨there, rfl⟩ := choose_eq_ok present choice
  obtain ⟨entry, found⟩ := lookup_of_mem_keys (Registry.has_iff.mp there)
  dsimp only at rest
  rw [found, Option.bind_some] at rest
  cases listed : (byTable specs).lookup entry.table with
  | none =>
    rw [listed] at rest
    cases rest
    exact ⟨entry, found, by rw [listed]; rfl⟩
  | some spec =>
    rw [listed] at rest
    dsimp only at rest
    obtain ⟨_, index, rest⟩ := Repaired.bind_eq_ok_iff.mp rest
    cases (outcome_setProperty ..).symm.trans index
    obtain ⟨_, idField, rest⟩ := Repaired.bind_eq_ok_iff.mp rest
    cases (outcome_setProperty ..).symm.trans idField
    cases rest
    exact ⟨entry, found, by rw [listed]; rfl⟩

theorem bindQuery_of_held (target : Option Text) (there : registry.lookup key = some entry)
    (given : processor.lookup ("properties" : Text) = some (.object fields))
    (ofKey : fields.lookup FlowTemplate.sqlIdProperty = some (.text key))
    (ofIndex : ∀ spec ∈ (byTable specs).lookup entry.table,
      fields.lookup FlowTemplate.indexProperty = some (.text spec.destination.index))
    (ofIdField : ∀ spec ∈ (byTable specs).lookup entry.table,
      fields.lookup FlowTemplate.idFieldProperty = some (.text spec.table.primaryKey)) :
    bindQuery registry specs target processor = .done (key, processor) := by
  have has : registry.has key := Registry.has_iff.mpr (lookup_isSome_iff_mem.mp (by simp [there]))
  simp only [bindQuery, withProperties_of_held given, Repaired.done_bind, properties_of_lookup given, ofKey, Option.getD_some,
    bindQuery.choose, has, if_true, there, Option.bind_some]
  cases listed : (byTable specs).lookup entry.table with
  | none => rfl
  | some spec =>
    simp [setProperty_of_held given (ofIndex spec listed), setProperty_of_held given (ofIdField spec listed)]

def settledProcessors (key : Text) (entry : Entry) (spec? : Option Spec) (binding reader sink : Fields)
    (processors : List Json) : List Json :=
  Part.replaceFirst FlowTemplate.sink (putProperty sink FlowTemplate.operationProperty FlowTemplate.upsert)
    (Part.replaceFirst FlowTemplate.reader (putProperty reader FlowTemplate.watermarkProperty entry.watermark)
      (Part.replaceFirst FlowTemplate.binding (boundBy key spec? binding) processors))

theorem syncProcessors_eq_ok (present : registry ≠ [])
    (synced : (syncProcessors registry specs target processors).outcome = .ok (key, result)) :
    ∃ entry binding reader sink, registry.lookup key = some entry ∧
      Part.find? processors FlowTemplate.binding = some binding ∧ Part.find? processors FlowTemplate.reader = some reader ∧
      Part.find? processors FlowTemplate.sink = some sink ∧
      result = settledProcessors key entry ((byTable specs).lookup entry.table) binding reader sink processors := by
  obtain ⟨⟨chosen, ofBinding⟩, first, rest⟩ := Repaired.bind_eq_ok_iff.mp synced
  obtain ⟨binding, _, foundBinding, binds, rfl⟩ := onProcessor_eq_ok_iff.mp first
  obtain ⟨entry, there, rfl⟩ := bindQuery_eq_ok present binds
  dsimp only at rest
  obtain ⟨⟨_, ofReader⟩, second, rest⟩ := Repaired.bind_eq_ok_iff.mp rest
  obtain ⟨reader, _, foundReader, set, rfl⟩ := onProcessor_eq_ok_iff.mp second
  obtain ⟨_, watermark, same⟩ := Repaired.bind_eq_ok_iff.mp set
  cases (outcome_setProperty ..).symm.trans watermark
  cases same
  obtain ⟨⟨_, ofSink⟩, third, rest⟩ := Repaired.bind_eq_ok_iff.mp rest
  obtain ⟨sink, _, foundSink, set, rfl⟩ := onProcessor_eq_ok_iff.mp third
  obtain ⟨_, operation, same⟩ := Repaired.bind_eq_ok_iff.mp set
  cases (outcome_setProperty ..).symm.trans operation
  cases same
  cases rest
  have ofBinding := (id_boundBy key ((byTable specs).lookup entry.table) binding).trans (Part.id_of_find? foundBinding)
  rw [Part.find?_replaceFirst_of_ne (by decide) ofBinding] at foundReader
  have ofReader := (id_putProperty reader FlowTemplate.watermarkProperty
    (((registry.lookup key).map Entry.watermark).getD [])).trans (Part.id_of_find? foundReader)
  rw [Part.find?_replaceFirst_of_ne (by decide) ofReader, Part.find?_replaceFirst_of_ne (by decide) ofBinding] at foundSink
  exact ⟨entry, binding, reader, sink, there, foundBinding, foundReader, foundSink, by simp [settledProcessors, there]⟩

section Settled

variable {binding reader sink : Fields}

theorem ids_settledProcessors (foundBinding : Part.find? processors FlowTemplate.binding = some binding)
    (foundReader : Part.find? processors FlowTemplate.reader = some reader)
    (foundSink : Part.find? processors FlowTemplate.sink = some sink) :
    (settledProcessors key entry spec? binding reader sink processors).map Part.id? = processors.map Part.id? := by
  rw [settledProcessors, Part.ids_replaceFirst (by simpa using Part.id_of_find? foundSink),
    Part.ids_replaceFirst (by simpa using Part.id_of_find? foundReader),
    Part.ids_replaceFirst (by simpa using Part.id_of_find? foundBinding)]

theorem lookup_boundBy (key : Text) (spec? : Option Spec) (processor : Fields) :
    ∃ properties, (boundBy key spec? processor).lookup ("properties" : Text) = some (.object properties) ∧
      properties.lookup FlowTemplate.sqlIdProperty = some (.text key) ∧
      (∀ spec ∈ spec?, properties.lookup FlowTemplate.indexProperty = some (.text spec.destination.index)) ∧
      ∀ spec ∈ spec?, properties.lookup FlowTemplate.idFieldProperty = some (.text spec.table.primaryKey) := by
  have apart : FlowTemplate.sqlIdProperty ≠ FlowTemplate.idFieldProperty ∧
      FlowTemplate.sqlIdProperty ≠ FlowTemplate.indexProperty ∧
      FlowTemplate.indexProperty ≠ FlowTemplate.idFieldProperty := by decide
  cases spec? with
  | none => exact ⟨_, lookup_putProperty .., by simp, by simp, by simp⟩
  | some spec =>
    refine ⟨_, lookup_putProperty .., ?_, ?_, ?_⟩
    · simp [Fields.lookup_put_of_ne apart.1, Fields.lookup_put_of_ne apart.2.1]
    · simp [Fields.lookup_put_of_ne apart.2.2]
    · simp

theorem boundBy_settledProcessors (foundBinding : Part.find? processors FlowTemplate.binding = some binding)
    (foundReader : Part.find? processors FlowTemplate.reader = some reader)
    (foundSink : Part.find? processors FlowTemplate.sink = some sink) :
    BoundBy key entry spec? (settledProcessors key entry spec? binding reader sink processors) := by
  have ofBinding : (boundBy key spec? binding).lookup ("identifier" : Text) = some (.text FlowTemplate.binding) := by
    simpa using Part.id_of_find? foundBinding
  have ofReader : (putProperty reader FlowTemplate.watermarkProperty entry.watermark).lookup ("identifier" : Text) =
      some (.text FlowTemplate.reader) := by
    simpa using Part.id_of_find? foundReader
  have ofSink : (putProperty sink FlowTemplate.operationProperty FlowTemplate.upsert).lookup ("identifier" : Text) =
      some (.text FlowTemplate.sink) := by
    simpa using Part.id_of_find? foundSink
  have atBinding : Part.find? (settledProcessors key entry spec? binding reader sink processors) FlowTemplate.binding =
      some (boundBy key spec? binding) := by
    rw [settledProcessors, Part.find?_replaceFirst_of_ne (by decide) ofSink,
      Part.find?_replaceFirst_of_ne (by decide) ofReader, Part.find?_replaceFirst (by simp [foundBinding]) ofBinding]
  have atReader : Part.find? (settledProcessors key entry spec? binding reader sink processors) FlowTemplate.reader =
      some (putProperty reader FlowTemplate.watermarkProperty entry.watermark) := by
    rw [settledProcessors, Part.find?_replaceFirst_of_ne (by decide) ofSink, Part.find?_replaceFirst ?_ ofReader]
    rw [Part.find?_replaceFirst_of_ne (by decide) ofBinding, foundReader]
    rfl
  have atSink : Part.find? (settledProcessors key entry spec? binding reader sink processors) FlowTemplate.sink =
      some (putProperty sink FlowTemplate.operationProperty FlowTemplate.upsert) := by
    rw [settledProcessors, Part.find?_replaceFirst ?_ ofSink]
    rw [Part.find?_replaceFirst_of_ne (by decide) ofReader, Part.find?_replaceFirst_of_ne (by decide) ofBinding, foundSink]
    rfl
  obtain ⟨properties, given, ofKey, ofIndex, ofIdField⟩ := lookup_boundBy key spec? binding
  exact {
    key := ⟨_, _, atBinding, given, ofKey⟩
    index := fun spec listed => ⟨_, _, atBinding, given, ofIndex spec listed⟩
    idField := fun spec listed => ⟨_, _, atBinding, given, ofIdField spec listed⟩
    watermark := ⟨_, _, atReader, lookup_putProperty .., by simp⟩
    operation := ⟨_, _, atSink, lookup_putProperty .., by simp⟩ }

end Settled

theorem HasProperty.unique {items : List Json} {id : Text} {properties : Fields} (held : HasProperty items id name value)
    (found : Part.find? items id = some fields) (given : fields.lookup ("properties" : Text) = some (.object properties)) :
    properties.lookup name = some (.text value) := by
  obtain ⟨_, _, again, same, there⟩ := held
  cases found.symm.trans again
  cases given.symm.trans same
  exact there

-- Processors that are bound already are left as they are.
theorem syncProcessors_of_bound (target : Option Text) (there : registry.lookup key = some entry)
    (bound : BoundBy key entry ((byTable specs).lookup entry.table) processors) :
    syncProcessors registry specs target processors = .done (key, processors) := by
  obtain ⟨binding, ofBinding, foundBinding, givenBinding, ofKey⟩ := bound.key
  have binds := bindQuery_of_held target there givenBinding ofKey
    (fun spec listed => (bound.index spec listed).unique foundBinding givenBinding)
    (fun spec listed => (bound.idField spec listed).unique foundBinding givenBinding)
  obtain ⟨reader, ofReader, foundReader, givenReader, ofWatermark⟩ := bound.watermark
  obtain ⟨sink, ofSink, foundSink, givenSink, ofOperation⟩ := bound.operation
  have reads : (setProperty FlowTemplate.watermarkProperty entry.watermark reader) = .done reader :=
    setProperty_of_held givenReader ofWatermark
  have writes : (setProperty FlowTemplate.operationProperty FlowTemplate.upsert sink) = .done sink :=
    setProperty_of_held givenSink ofOperation
  simp only [syncProcessors, onProcessor_of_done foundBinding binds, Repaired.done_bind, there, Option.map_some,
    Option.getD_some]
  rw [onProcessor_of_done foundReader (by rw [reads]; rfl), Repaired.done_bind,
    onProcessor_of_done foundSink (by rw [writes]; rfl)]
  rfl

end ChangeCapture.Projection
