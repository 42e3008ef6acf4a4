import ChangeCapture.Yaml.Node

namespace ChangeCapture.Yaml

-- Mappings take entries over from others under merge keys. What is taken over comes
-- before a mapping's own entries, so that these win, and the merge keys are gone.

abbrev NodeEntries := List (NodeId × NodeId)

namespace Nodes

def node? (nodes : Nodes) (id : NodeId) : Option Node := nodes[id]?

def tag (nodes : Nodes) (id : NodeId) : Tag := ((nodes.node? id).map Node.tag).getD .foreign

def isMergeKey (nodes : Nodes) (id : NodeId) : Bool := nodes.tag id = .merge

def entries (nodes : Nodes) (id : NodeId) : NodeEntries :=
  match nodes.node? id with
  | some (.mapping _ entries) => entries
  | _ => []

def withEntries (nodes : Nodes) (id : NodeId) (entries : NodeEntries) : Nodes :=
  match nodes.node? id with
  | some (.mapping tag _) => nodes.setIfInBounds id (.mapping tag entries)
  | _ => nodes

def withPlainKey (nodes : Nodes) (id : NodeId) : Nodes :=
  match nodes.node? id with
  | some (.scalar .default text) => nodes.setIfInBounds id (.scalar .text text)
  | some (.list .default items) => nodes.setIfInBounds id (.list .text items)
  | some (.mapping .default entries) => nodes.setIfInBounds id (.mapping .text entries)
  | _ => nodes

def withPlainKeys (nodes : Nodes) (id : NodeId) : Nodes :=
  (nodes.entries id).foldl (fun nodes entry => nodes.withPlainKey entry.1) nodes

def mergeCount (nodes : Nodes) : Nat :=
  nodes.foldl (fun count node =>
    match node with
    | .mapping _ entries => count + (entries.filter fun entry => nodes.isMergeKey entry.1).length
    | _ => count) 0

end Nodes

abbrev Merging := StateT Nodes (Except Fault)

namespace Merging

def takeSource (id : NodeId) : Merging (Option NodeId) := do
  let nodes ← get
  match (nodes.entries id).span fun entry => !nodes.isMergeKey entry.1 with
  | (_, []) => return none
  | (own, source :: rest) =>
    set (nodes.withEntries id (own ++ rest))
    return some source.2

-- The entries of a mapping with all that it takes over, which stay with it. A mapping
-- may take over from one that it stands in, or from itself: it is given what that one
-- has so far. Of the mappings in a list the first one wins.
def merged : Nat → NodeId → Merging NodeEntries
  | 0, _ => throw .malformed
  | fuel + 1, id => do
    match ← takeSource id with
    | none =>
      modify fun nodes => nodes.withPlainKeys id
      let nodes : Nodes ← get
      return nodes.entries id
    | some source =>
      let nodes : Nodes ← get
      let offered ← match nodes.node? source with
        | some (.mapping _ _) => merged fuel source
        | some (.list _ items) =>
          let groups ← items.mapM fun item => do
            match nodes.node? item with
            | some (.mapping _ _) => merged fuel item
            | _ => throw .malformed
          pure groups.reverse.flatten
        | _ => throw .malformed
      let entries := offered ++ (← merged fuel id)
      modify fun nodes => nodes.withEntries id entries
      return entries

end Merging

end ChangeCapture.Yaml
