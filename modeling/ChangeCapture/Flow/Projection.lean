import ChangeCapture.Flow.Parts
import ChangeCapture.Flow.Repair
import ChangeCapture.Flow.Template
import ChangeCapture.Json.Display
import ChangeCapture.Registry.Basic

namespace ChangeCapture

open FlowTemplate (Edge)

inductive FlowDrift where
  | noContents
  | noProcessors
  | foreignProcessor (id : Json)
  | repeatedProcessor (id : Text)
  | missingProcessors (first : Text) (rest : List Text)
  | connectionsNoList
  | foreignConnection (id : Json)
  | repeatedConnection (id : Text)
  | misdirected (edge : Edge) (source destination : Json)
  | servicesNoList
  | missingServices (first : Text) (rest : List Text)
  | unreadable (reason : Text) (path : Text)

namespace FlowDrift

def message : FlowDrift → Text
  | .noContents => "Flow document has no flowContents object"
  | .noProcessors => "Flow has connections but no processors"
  | .foreignProcessor id => "Foreign processor in flow: " ++ id.spliced
  | .repeatedProcessor id => "Duplicate processor in flow: " ++ id
  | .missingProcessors first rest => "Flow is missing processors: " ++ Text.joined ", " (first :: rest)
  | .connectionsNoList => "Flow connections must be a list"
  | .foreignConnection id => "Foreign connection in flow: " ++ id.spliced
  | .repeatedConnection id => "Duplicate connection in flow: " ++ id
  | .misdirected edge source destination =>
    "Connection " ++ edge.id ++ " links " ++ source.spliced ++ " -> " ++ destination.spliced ++
      ", expected " ++ edge.source ++ " -> " ++ edge.destination
  | .servicesNoList => "Flow controllerServices must be a list"
  | .missingServices first rest =>
    "Flow is missing controller services: " ++ Text.joined ", " (first :: rest)
  | .unreadable reason _ => "Flow file is not valid JSON: " ++ reason

def detail : FlowDrift → Text
  | .noContents => "flowContents"
  | .noProcessors => "processors"
  | .foreignProcessor id => "processor " ++ id.spliced
  | .repeatedProcessor id => "processor " ++ id
  | .missingProcessors first _ => "missing processor " ++ first
  | .connectionsNoList => "connections"
  | .foreignConnection id => "connection " ++ id.spliced
  | .repeatedConnection id => "connection " ++ id
  | .misdirected edge _ _ => "connection " ++ edge.id
  | .servicesNoList => "controllerServices"
  | .missingServices first _ => "missing service " ++ first
  | .unreadable _ _ => "flow document"

def path? : FlowDrift → Option Text
  | .unreadable _ path => some path
  | _ => none

end FlowDrift

-- What stops a projection. Beside drift there are two inputs that it is not made
-- for: a connection whose identifier is a collection, and windows whose length
-- cannot be told.
inductive ProjectionStop where
  | drift (drift : FlowDrift)
  | collectionId (kind : Text)
  | window (fault : IntegerFault)

abbrev Projecting (α : Type) := Repaired ProjectionStop α

structure Projected where
  flow : Json
  sqlId : Text

namespace Projection

def isAbsent (value : Option Json) : Bool := (value.getD .null).isEmptyLike

def drifted {α : Type} (drift : FlowDrift) : Projecting α := .stop (.drift drift)

def checkProcessors (seen : List Text) : List Json → Except FlowDrift (List Text)
  | [] => .ok seen
  | processor :: rest =>
    match Part.id? processor with
    | some (.text id) =>
      if !FlowTemplate.processorIds.contains id then .error (.foreignProcessor (.text id))
      else if seen.contains id then .error (.repeatedProcessor id)
      else checkProcessors (seen ++ [id]) rest
    | other => .error (.foreignProcessor (other.getD .null))

def edge? (id : Text) : Option Edge := FlowTemplate.edges.find? fun edge => edge.id = id

def checkConnections (seen : List Text) : List Json → Except ProjectionStop (List Text)
  | [] => .ok seen
  | connection :: rest =>
    match Part.id? connection with
    | some (.text id) =>
      match edge? id with
      | none => .error (.drift (.foreignConnection (.text id)))
      | some edge =>
        if seen.contains id then .error (.drift (.repeatedConnection id))
        else
          let source := (Part.end? connection "source").getD .null
          let destination := (Part.end? connection "destination").getD .null
          if source = .text edge.source ∧ destination = .text edge.destination then
            checkConnections (seen ++ [id]) rest
          else .error (.drift (.misdirected edge source destination))
    | some (.list _) => .error (.collectionId "list")
    | some (.object _) => .error (.collectionId "dict")
    | other => .error (.drift (.foreignConnection (other.getD .null)))

def restoreConnections (present : List Text) : List Edge → List Json → Projecting (List Json)
  | [], connections => .done connections
  | edge :: rest, connections =>
    if present.contains edge.id then restoreConnections present rest connections
    else do
      let connections ← Repaired.note .connectionRestored edge.id "missing connection emitted from template"
        (connections ++ [FlowTemplate.connectionJson edge])
      restoreConnections present rest connections

def syncConnections (contents : Fields) : Projecting Fields :=
  let connections := Fields.get? contents "connections"
  if isAbsent connections then
    .note .topologyRestored "connections" "connection chain emitted from template"
      (contents.put "connections" FlowTemplate.allConnections)
  else match connections with
    | some (.list items) =>
      match checkConnections [] items with
      | .error stop => .stop stop
      | .ok present => do
        let restored ← restoreConnections present FlowTemplate.edges items
        pure (contents.put "connections" (.list restored))
    | _ => drifted .connectionsNoList

def syncTopology (contents : Fields) : Projecting Fields :=
  let processors := Fields.get? contents "processors"
  if isAbsent processors ∧ isAbsent (Fields.get? contents "connections") then
    .note .topologyRestored "processors" "processor chain emitted from template"
      ((contents.put "processors" FlowTemplate.allProcessors).put "connections" FlowTemplate.allConnections)
  else match processors with
    | some (.list (first :: rest)) =>
      match checkProcessors [] (first :: rest) with
      | .error drift => drifted drift
      | .ok seen =>
        match FlowTemplate.processorIds.filter fun id => !seen.contains id with
        | first :: rest => drifted (.missingProcessors first rest)
        | [] => syncConnections contents
    | _ => drifted .noProcessors

def restoreLookupService (services : List Json) : Projecting (List Json) :=
  match Part.find? services FlowTemplate.lookupService with
  | some _ => .done services
  | none =>
    .note .serviceRestored FlowTemplate.lookupService "lookup service emitted from template"
      (services ++ (FlowTemplate.service? FlowTemplate.lookupService).toList)

def syncServices (contents : Fields) : Projecting (List Json) :=
  match (Fields.get? contents "controllerServices").getD .null with
  | .null => checked []
  | .list services => checked services
  | _ => drifted .servicesNoList
where
  checked (services : List Json) : Projecting (List Json) := do
    let services ← restoreLookupService services
    match FlowTemplate.serviceIds.filter fun id => (Part.find? services id).isNone with
    | first :: rest => drifted (.missingServices first rest)
    | [] => pure services

-- The look-up's properties lose the keys of the registry's name space that the
-- registry does not have, and take the registry's queries; all others stay.
def removals (registry : Registry) (properties : Fields) : List Repair :=
  ((Text.sorted properties.keys).filter fun key => SqlId.isShaped key && !registry.has key).map
    fun key => ⟨.lookupRemoved, key, "stale sql_id not in registry"⟩

def lookupRepair? (properties : Fields) (item : Text × Entry) : Option Repair :=
  match properties.lookup item.1 with
  | none => some ⟨.lookupAdded, item.1, "registry query added"⟩
  | some value =>
    if value = .text item.2.sql then none
    else some ⟨.lookupUpdated, item.1, "query text replaced with registry SQL"⟩

def syncedProperties (registry : Registry) (properties : Fields) : Fields :=
  registry.foldl (fun synced item => synced.put item.1 (.text item.2.sql))
    (properties.filter fun field => !SqlId.isShaped field.1)

def syncLookup (registry : Registry) (service : Fields) : Projecting Fields :=
  let properties := Part.properties service
  ⟨removals registry properties ++ registry.filterMap (lookupRepair? properties),
    .ok (service.put "properties" (.object (syncedProperties registry properties)))⟩

def idOf (processor : Fields) : Text := ((Fields.get? processor "identifier").getD .null).spliced

def withProperties (processor : Fields) : Projecting Fields :=
  match (Fields.get? processor "properties").getD .null with
  | .object _ => .done processor
  | other =>
    .note .propertiesReset (idOf processor ++ ".properties") (other.kindName ++ " replaced with an empty object")
      (processor.put "properties" (.object []))

def putProperty (processor : Fields) (name value : Text) : Fields :=
  processor.put "properties" (.object ((Part.properties processor).put name (.text value)))

def setProperty (name value : Text) (processor : Fields) : Projecting Fields := do
  let processor ← withProperties processor
  let current := ((Part.properties processor).lookup name).getD .null
  if current = .text value then pure processor
  else
    .note .propertySet (idOf processor ++ "." ++ name) (current.quoted ++ " -> " ++ Text.quoted value)
      (putProperty processor name value)

-- The specifications by table; of two for one table the later one counts.
def byTable (specs : List Spec) : List (Text × Spec) :=
  specs.foldl (fun table spec => put spec table) []
where
  put (spec : Spec) : List (Text × Spec) → List (Text × Spec)
    | [] => [(spec.tableName, spec)]
    | (name, old) :: rest =>
      if name = spec.tableName then (name, spec) :: rest else (name, old) :: put spec rest

def firstDefault (registry : Registry) : List Spec → Except IntegerFault (Option Text)
  | [] => .ok none
  | spec :: rest => do
    let window ← spec.defaultWindow
    let key := SqlId.make spec.tableName window
    if registry.has key then pure (some key) else firstDefault registry rest

def defaultKey (registry : Registry) (specs : List Spec) (target : Option Text) : Except IntegerFault Text := do
  let table := byTable specs
  let wanted := ((target.bind fun name => table.lookup name).toList)
  let ordered := Sorting.sort (fun a b => Text.le a.tableLower b.tableLower) (table.map Prod.snd)
  let found ← firstDefault registry (wanted ++ ordered)
  pure (found.getD ((registry.map Prod.fst).headD []))

-- The binding keeps a query that the registry has, and otherwise takes the
-- default. The index and its key follow from the table of the query.
def bindQuery (registry : Registry) (specs : List Spec) (target : Option Text) (processor : Fields) :
    Projecting (Text × Fields) := do
  let processor ← withProperties processor
  let current := ((Part.properties processor).lookup FlowTemplate.sqlIdProperty).getD .null
  let (key, processor) ← choose processor current
  match (registry.lookup key).bind fun entry => (byTable specs).lookup entry.table with
  | none => pure (key, processor)
  | some spec => do
    let processor ← setProperty FlowTemplate.indexProperty spec.destination.index processor
    let processor ← setProperty FlowTemplate.idFieldProperty spec.table.primaryKey processor
    pure (key, processor)
where
  rebind (processor : Fields) (current : Json) : Projecting (Text × Fields) :=
    match defaultKey registry specs target with
    | .error fault => .stop (.window fault)
    | .ok key =>
      let before : Text := if current.isEmptyLike then "<unset>" else current.spliced
      .note .sqlIdRebound FlowTemplate.binding ("sql_id " ++ before ++ " -> " ++ key)
        (key, putProperty processor FlowTemplate.sqlIdProperty key)
  choose (processor : Fields) (current : Json) : Projecting (Text × Fields) :=
    match current with
    | .text key => if registry.has key then .done (key, processor) else rebind processor current
    | _ => rebind processor current

def onProcessor {α : Type} (id : Text) (change : Fields → Projecting (α × Fields)) (processors : List Json) :
    Projecting (α × List Json) :=
  match Part.find? processors id with
  | none => drifted (.missingProcessors id [])
  | some processor => do
    let (value, processor) ← change processor
    pure (value, Part.replaceFirst id processor processors)

def syncProcessors (registry : Registry) (specs : List Spec) (target : Option Text) (processors : List Json) :
    Projecting (Text × List Json) := do
  let (key, processors) ← onProcessor FlowTemplate.binding (bindQuery registry specs target) processors
  let watermark := ((registry.lookup key).map Entry.watermark).getD []
  let set (name value : Text) (processor : Fields) : Projecting (Unit × Fields) := do
    let processor ← setProperty name value processor
    pure ((), processor)
  let (_, processors) ← onProcessor FlowTemplate.reader (set FlowTemplate.watermarkProperty watermark) processors
  let (_, processors) ← onProcessor FlowTemplate.sink
    (set FlowTemplate.operationProperty FlowTemplate.upsert) processors
  pure (key, processors)

def syncContents (registry : Registry) (specs : List Spec) (target : Option Text) (contents : Fields) :
    Projecting (Text × Fields) := do
  let contents ← syncTopology contents
  let services ← syncServices contents
  let service := (Part.find? services FlowTemplate.lookupService).getD []
  let service ← syncLookup registry service
  let services := Part.replaceFirst FlowTemplate.lookupService service services
  let contents := contents.put "controllerServices" (.list services)
  let (key, processors) ← syncProcessors registry specs target (Part.items (Fields.get? contents "processors"))
  pure (key, contents.put "processors" (.list processors))

def startFlow : Json → Projecting Json
  | .null =>
    .note .flowCreated "flowContents" "flow file missing, started from template" FlowTemplate.flow
  | flow => .done flow

def project (registry : Registry) (specs : List Spec) (target : Option Text) (flow : Json) :
    Projecting Projected := do
  let flow ← startFlow flow
  match flow with
  | .object fields =>
    match Fields.get? fields "flowContents" with
    | some (.object contents) => do
      let (key, contents) ← syncContents registry specs target contents
      pure ⟨.object (Fields.put "flowContents" (.object contents) fields), key⟩
    | _ => drifted .noContents
  | _ => drifted .noContents

end Projection

structure Projector where
  registry : Registry
  specs : List Spec
  target : Option Text
  repairs : List Repair

namespace Projector

def make (registry : Registry) (specs : List Spec) (target : Option Text) : Option Projector :=
  if registry.isEmpty then none
  else some ⟨registry, specs, (target.filter fun name => !name.isEmpty).map Text.upper, []⟩

-- Every run starts with no repairs and keeps its own, also when it is stopped.
def run (projector : Projector) (flow : Json) : Except ProjectionStop Projected × Projector :=
  let projection := Projection.project projector.registry projector.specs projector.target flow
  (projection.outcome, { projector with repairs := projection.repairs })

def log (projector : Projector) : Log := projector.repairs.map Repair.logLine

end Projector

end ChangeCapture
