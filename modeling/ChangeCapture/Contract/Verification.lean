import ChangeCapture.Contract.Violation
import ChangeCapture.Flow.Projection
import ChangeCapture.Query.Ordering

namespace ChangeCapture

open FlowTemplate (Edge)

namespace Contract

-- A connection whose identifier is a collection has no place in the check.
structure CollectionId where
  kind : Text
  deriving DecidableEq, Repr

abbrev Entries := List (Text × Entry)

def entryOf (data : Json) : Except (List Text) Entry :=
  match data with
  | .object fields => Entry.ofFields fields
  | _ => Entry.ofFields []

def entriesOf (fields : Fields) : Entries :=
  fields.filterMap fun field =>
    match entryOf field.2 with
    | .ok entry => some (field.1, entry)
    | .error _ => none

def readable : Json → Entries
  | .object fields => entriesOf fields
  | _ => []

def checkDocument : Json → List Violation
  | .object fields => fields.filterMap fun field =>
    match entryOf field.2 with
    | .ok _ => none
    | .error missing => some ⟨.i4, field.1, Entry.missingMessage missing⟩
  | _ => [⟨.i2, "registry", "registry is not a JSON object"⟩]

def inOrder {α : Type} (items : List (Text × α)) : List (Text × α) :=
  Sorting.sort (fun a b => Text.le a.1 b.1) items

abbrev SpecTable := List (Text × Spec)

def hasKey (entries : Entries) (key : Text) : Bool := entries.any (·.1 = key)

def checkWindows (table : SpecTable) (entries : Entries) : List Violation :=
  (inOrder table).flatMap fun item => item.2.windows.options.filterMap fun window =>
    let key := SqlId.make item.1 window
    if hasKey entries key then none
    else some ⟨.i2, key, "missing registry entry for window " ++ window⟩

def checkKey (table : SpecTable) (key : Text) : List Violation :=
  match SqlId.parse? key with
  | none => []
  | some (name, window) =>
    match table.lookup name with
    | none => [⟨.i2, key, "no spec defines table " ++ name⟩]
    | some spec =>
      if spec.windows.options.contains window then []
      else [⟨.i2, key, "window " ++ window ++ " is not in range.options"⟩]

def checkCoverage (table : SpecTable) (entries : Entries) : List Violation :=
  checkWindows table entries ++ (inOrder entries).flatMap fun item => checkKey table item.1

def checkBound (key sql edge : Text) : List Violation :=
  let count := Text.occurrences (placeholder edge) sql
  if count = 1 then []
  else [⟨.i3, key, placeholder edge ++ " occurs " ++ Text.ofNat count ++ " times, expected 1"⟩]

def checkQuery (spec : Option Spec) (key : Text) (entry : Entry) : List Violation :=
  let watermark := match spec with
    | some spec => spec.table.watermark
    | none => entry.watermark
  let ordering : List Violation :=
    if Ordering.isBy entry.sql watermark then []
    else [⟨.i3, key, "SQL must contain exactly one trailing ORDER BY " ++ watermark⟩]
  let own : List Violation :=
    if entry.watermark = watermark then []
    else [⟨.i3, key, "max_value_column " ++ entry.watermark ++ " != cdc_key " ++ watermark⟩]
  ordering ++ checkBound key entry.sql rangeFrom ++ checkBound key entry.sql rangeTo ++ own

def checkNames (key : Text) (entry : Entry) : List Violation :=
  match SqlId.parse? key with
  | none => [⟨.i4, key, "sql_id is not oracle.cdc.<table_lower>.<range>"⟩]
  | some (table, window) =>
    let ofTable : List Violation :=
      if entry.table = table then []
      else [⟨.i4, key, "table " ++ entry.table ++ " != sql_id segment " ++ table⟩]
    let ofWindow : List Violation :=
      if entry.window = window then []
      else [⟨.i4, key, "range " ++ entry.window ++ " != sql_id segment " ++ window⟩]
    ofTable ++ ofWindow

def specOf (table : SpecTable) (entry : Entry) : Option Spec := table.lookup entry.table.upper

def checkEntries (table : SpecTable) (entries : Entries) : List Violation :=
  (inOrder entries).flatMap fun item =>
    checkQuery (specOf table item.2) item.1 item.2 ++ checkNames item.1 item.2

def partIn (items : Option Json) (id : Text) : Option Fields := Part.find? (Part.items items) id

def propertiesIn (items : Option Json) (id : Text) : Fields := ((partIn items id).map Part.properties).getD []

def checkLookup (contents : Fields) (entries : Entries) : List Violation :=
  match partIn (Fields.get? contents "controllerServices") FlowTemplate.lookupService with
  | none => [⟨.i5, FlowTemplate.lookupService, "lookup service missing from flow"⟩]
  | some service =>
    let properties := Part.properties service
    let ofEntries := (inOrder entries).filterMap fun item =>
      match properties.lookup item.1 with
      | none => some (⟨.i5, item.1, "missing from lookup service"⟩ : Violation)
      | some value =>
        if value = .text item.2.sql then none
        else some ⟨.i5, item.1, "lookup service SQL differs from registry"⟩
    let ofKeys := ((Text.sorted properties.keys).filter fun key =>
      SqlId.isShaped key && !hasKey entries key).map fun key =>
        (⟨.i5, key, "lookup service holds a sql_id that is not in the registry"⟩ : Violation)
    ofEntries ++ ofKeys

def isNamed (names : List Text) : Json → Bool
  | .text name => names.contains name
  | _ => false

def idsOf (items : List Json) : List Json :=
  (items.filter Json.isObject).map fun item => (Part.id? item).getD .null

def checkProcessorIds (ids : List Json) : List Violation :=
  let counted := FlowTemplate.processorIds.filterMap fun id =>
    let count := ids.count (.text id)
    if count = 1 then none
    else some (⟨.i8, id, "processor occurs " ++ Text.ofNat count ++ " times, expected 1"⟩ : Violation)
  let foreign := (ids.filter fun id => !isNamed FlowTemplate.processorIds id).map fun id =>
    (⟨.i8, id.spliced, "foreign processor in flow"⟩ : Violation)
  counted ++ foreign

abbrev Ends := Json × Json

def readConnections : List Json → Except CollectionId (List Violation × List (Text × Ends))
  | [] => .ok ([], [])
  | .object fields :: rest =>
    match (Fields.get? fields "identifier").getD .null with
    | .list _ => .error ⟨"list"⟩
    | .object _ => .error ⟨"dict"⟩
    | id =>
      match readConnections rest with
      | .error stop => .error stop
      | .ok (violations, found) =>
        match id with
        | .text name =>
          if (Projection.edge? name).isSome then
            let ends := ((Part.end? (.object fields) "source").getD .null,
              (Part.end? (.object fields) "destination").getD .null)
            .ok (violations, if (found.lookup name).isSome then found else (name, ends) :: found)
          else .ok (⟨.i8, name, "foreign connection in flow"⟩ :: violations, found)
        | other => .ok (⟨.i8, other.spliced, "foreign connection in flow"⟩ :: violations, found)
  | _ :: rest => readConnections rest

def checkEdge (found : List (Text × Ends)) (edge : Edge) : Option Violation :=
  match found.lookup edge.id with
  | none => some ⟨.i8, edge.id, "connection missing"⟩
  | some (source, destination) =>
    if source = .text edge.source ∧ destination = .text edge.destination then none
    else some ⟨.i8, edge.id, "links " ++ source.spliced ++ " -> " ++ destination.spliced ++ ", expected " ++
      edge.source ++ " -> " ++ edge.destination⟩

def checkConnections (connections : List Json) : Except CollectionId (List Violation) :=
  (readConnections connections).map fun (foreign, found) =>
    let expected := FlowTemplate.edges.length
    let counted : List Violation :=
      if connections.length = expected then []
      else [⟨.i8, "connections", Text.ofNat connections.length ++ " connections, expected " ++
        Text.ofNat expected⟩]
    foreign ++ counted ++ FlowTemplate.edges.filterMap (checkEdge found)

def checkServices (services : Option Json) : List Violation :=
  FlowTemplate.serviceIds.filterMap fun id =>
    match partIn services id with
    | some _ => none
    | none => some ⟨.i8, id, "controller service missing"⟩

def checkTopology (contents : Fields) : Except CollectionId (List Violation) :=
  (checkConnections (Part.items (Fields.get? contents "connections"))).map fun ofConnections =>
    checkProcessorIds (idsOf (Part.items (Fields.get? contents "processors"))) ++ ofConnections ++
      checkServices (Fields.get? contents "controllerServices")

def valueOf (properties : Fields) (name : Text) : Json := (properties.lookup name).getD .null

def checkProcessors (table : SpecTable) (contents : Fields) (entries : Entries) : List Violation :=
  let processors := Fields.get? contents "processors"
  let binding := propertiesIn processors FlowTemplate.binding
  let key := valueOf binding FlowTemplate.sqlIdProperty
  let entry := match key with
    | .text key => entries.lookup key
    | _ => none
  let ofKey : List Violation := match entry with
    | some _ => []
    | none => [⟨.i5, FlowTemplate.binding, "sql_id " ++ key.quoted ++ " does not resolve in the registry"⟩]
  let spec := entry.bind (specOf table)
  let watermark := match spec with
    | some spec => some spec.table.watermark
    | none => entry.map Entry.watermark
  let column := valueOf (propertiesIn processors FlowTemplate.reader) FlowTemplate.watermarkProperty
  let ofColumn : List Violation := match watermark with
    | none => []
    | some watermark =>
      if column = .text watermark then []
      else [⟨.i6, FlowTemplate.reader, FlowTemplate.watermarkProperty ++ " is " ++ column.quoted ++
        ", expected " ++ Text.quoted watermark⟩]
  let operation := valueOf (propertiesIn processors FlowTemplate.sink) FlowTemplate.operationProperty
  let ofOperation : List Violation :=
    if operation = .text FlowTemplate.upsert then []
    else [⟨.i7, FlowTemplate.sink, FlowTemplate.operationProperty ++ " is " ++ operation.quoted ++
      ", expected 'upsert'"⟩]
  let idField := valueOf binding FlowTemplate.idFieldProperty
  let ofIdField : List Violation := match spec with
    | none => []
    | some spec =>
      if idField = .text spec.table.primaryKey then []
      else [⟨.i7, FlowTemplate.binding, FlowTemplate.idFieldProperty ++ " is " ++ idField.quoted ++
        ", expected primary key " ++ Text.quoted spec.table.primaryKey⟩]
  ofKey ++ ofColumn ++ ofOperation ++ ofIdField

def checkFlow (table : SpecTable) (entries : Entries) (flow : Json) : Except CollectionId (List Violation) :=
  match flow.field? "flowContents" with
  | some (.object contents) =>
    (checkTopology contents).map fun ofTopology =>
      checkLookup contents entries ++ ofTopology ++ checkProcessors table contents entries
  | _ => .ok [⟨.i8, "flowContents", "flow document has no flowContents object"⟩]

-- Where specifications, registry and flow disagree, the most fundamental first.
def violations (specs : List Spec) (registry flow : Json) : Except CollectionId (List Violation) :=
  let table := Projection.byTable specs
  let entries := readable registry
  (checkFlow table entries flow).map fun ofFlow =>
    checkDocument registry ++ checkCoverage table entries ++ checkEntries table entries ++ ofFlow

end Contract

structure Verifier where
  specs : List Spec
  registry : Json
  flow : Json
  found : List Violation

-- A run adds what it finds to what was found before.
def Verifier.run (verifier : Verifier) : Except Contract.CollectionId Verifier :=
  (Contract.violations verifier.specs verifier.registry verifier.flow).map fun violations =>
    { verifier with found := verifier.found ++ violations }

end ChangeCapture
