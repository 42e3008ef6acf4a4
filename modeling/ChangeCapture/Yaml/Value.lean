import ChangeCapture.Yaml.Merge
import ChangeCapture.Yaml.Scalar

namespace ChangeCapture.Yaml

-- A scalar that has been read. A NaN equals nothing, and is the same key only as
-- itself: as the node it is written at, or as the usual one, which has no node.
structure Read where
  document : Document
  origin : Option NodeId

inductive Value where
  | scalar (read : Read)
  | collection (id : NodeId)

inductive Contents where
  | list (items : List Value)
  | couples (items : List (Value × Value))
  | set (members : List Read)
  | mapping (entries : List (Read × Value))

namespace Read

def isNaN (read : Read) : Bool :=
  match read.document with
  | .double .nan => true
  | _ => false

def isSameKey (a b : Read) : Bool :=
  Document.sameKey a.document b.document || (a.isNaN && b.isNaN && a.origin = b.origin)

def put (key : Read) (value : Value) : List (Read × Value) → List (Read × Value)
  | [] => [(key, value)]
  | entry :: rest => if entry.1.isSameKey key then (entry.1, value) :: rest else entry :: put key value rest

end Read

namespace Nodes

def text (nodes : Nodes) : Nat → NodeId → Except Fault Text
  | 0, _ => .error (.refused .circularScalar)
  | fuel + 1, id =>
    match nodes.node? id with
    | some (.scalar _ text) => .ok text
    | some (.mapping _ entries) =>
      match entries.find? fun entry => nodes.tag entry.1 = .default with
      | some entry => nodes.text fuel entry.2
      | none => .error .malformed
    | _ => .error .malformed

def isScalar (nodes : Nodes) (id : NodeId) : Bool :=
  match nodes.node? id with
  | some (.scalar _ _) => true
  | _ => false

def scalar (nodes : Nodes) (id : NodeId) : Except Fault Read :=
  let told (read : Text → Except Fault Document) : Except Fault Read := do
    let text ← nodes.text (nodes.size + 1) id
    let document ← read text
    .ok ⟨document, if Scalar.isUsualNaN text then none else some id⟩
  match nodes.tag id with
  | .null => told fun _ => .ok .null
  | .bool => told Scalar.bool
  | .int => told Scalar.int
  | .float => told Scalar.float
  | .binary => told Scalar.binary
  | .timestamp =>
    told fun text => if nodes.isScalar id then Scalar.timestamp text else .error (.refused .keyedTimestamp)
  | .text => told fun text => .ok (.text text)
  | _ => .error .malformed

def isCollection (nodes : Nodes) (id : NodeId) : Bool :=
  match nodes.tag id with
  | .list | .mapping | .set | .ordered | .pairs => true
  | _ => false

end Nodes

structure Valuation where
  nodes : Nodes
  merges : Nat
  values : Array (Option Value)
  contents : Array (Option Contents)
  waiting : List NodeId

abbrev Valuing := StateT Valuation (Except Fault)

namespace Valuing

-- A node is read once. A collection is only met here; its turn to be looked into
-- comes after those that were met before it, so of two faults the one nearer to the
-- root is told.
def value (id : NodeId) : Valuing Value := do
  let state ← get
  match state.values[id]? with
  | some (some value) => return value
  | _ =>
    if state.nodes.isCollection id then
      let value := Value.collection id
      set { state with values := state.values.setIfInBounds id (some value), waiting := id :: state.waiting }
      return value
    else
      let value := Value.scalar (← state.nodes.scalar id)
      set { state with values := state.values.setIfInBounds id (some value) }
      return value

def key (id : NodeId) : Valuing Read := do
  match ← value id with
  | .scalar read => return read
  | .collection _ => throw .malformed

def merged (id : NodeId) : Valuing NodeEntries := do
  let state ← get
  let (entries, nodes) ← (Merging.merged (state.merges + 1) id).run state.nodes
  set { state with nodes := nodes }
  return entries

def entries (id : NodeId) : Valuing (List (Read × Value)) := do
  let pairs ← (← merged id).mapM fun entry => do
    let key ← key entry.1
    let value ← value entry.2
    pure (key, value)
  return pairs.foldl (fun entries pair => pair.1.put pair.2 entries) []

def couple (id : NodeId) : Valuing (Value × Value) := do
  match (← get).nodes.node? id with
  | some (.mapping _ [(key, item)]) =>
    let key ← value key
    let item ← value item
    return (key, item)
  | _ => throw .malformed

def contents (id : NodeId) : Valuing Contents := do
  let nodes := (← get).nodes
  match nodes.tag id, nodes.node? id with
  | .list, some (.list _ items) => return .list (← items.mapM value)
  | .ordered, some (.list _ items) | .pairs, some (.list _ items) => return .couples (← items.mapM couple)
  | .set, some (.mapping _ _) => return .set ((← entries id).map Prod.fst)
  | .mapping, some (.mapping _ _) => return .mapping (← entries id)
  | _, _ => throw .malformed

def fill (id : NodeId) : Valuing Unit := do
  let contents ← contents id
  modify fun state => { state with contents := state.contents.setIfInBounds id (some contents) }

-- Every node waits at most once, which bounds the rounds.
def fillAll : Nat → Valuing Unit
  | 0 => return ()
  | fuel + 1 => do
    match (← get).waiting.reverse with
    | [] => return ()
    | waiting =>
      modify fun state => { state with waiting := [] }
      waiting.forM fill
      fillAll fuel

def root (id : NodeId) : Valuing Value := do
  let value ← value id
  fillAll ((← get).nodes.size + 1)
  return value

end Valuing

def Nodes.value (nodes : Nodes) (id : NodeId) : Except Fault (Value × Array (Option Contents)) :=
  let unknown {α : Type} : Array (Option α) := Array.replicate nodes.size none
  (Valuing.root id |>.run ⟨nodes, nodes.mergeCount, unknown, unknown, []⟩).map fun (value, state) =>
    (value, state.contents)

end ChangeCapture.Yaml
