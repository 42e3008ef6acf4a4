import ChangeCapture.Yaml.Tag
import ChangeCapture.Yaml.Token

namespace ChangeCapture.Yaml

abbrev NodeId := Nat

-- A part of a document before its scalars are read. A collection holds its parts by
-- their numbers, so that one node may stand in several places, and even in itself.
inductive Node where
  | scalar (tag : Tag) (text : Text)
  | list (tag : Tag) (items : List NodeId)
  | mapping (tag : Tag) (entries : List (NodeId × NodeId))
  deriving DecidableEq, Repr

abbrev Nodes := Array Node

namespace Node

def absent : Node := .scalar (.ofPlain []) []

def tag : Node → Tag
  | .scalar tag _ | .list tag _ | .mapping tag _ => tag

structure State where
  tokens : List Token
  nodes : Nodes
  anchors : List (Text × NodeId)
  handles : List (Text × Text)

abbrev Reading := StateT State (Except Fault)

def peek : Reading Token := do
  match (← get).tokens with
  | .stop (some fault) :: _ => throw fault
  | token :: _ => pure token
  | [] => pure (.stop none)

def skip : Reading Unit := modify fun state => { state with tokens := state.tokens.drop 1 }

def referred (name : Text) : Reading NodeId := do
  match (← get).anchors.lookup name with
  | some id => pure id
  | none => throw .malformed

def claim (anchor : Option Text) : Reading Unit := do
  match anchor with
  | none => pure ()
  | some name => if ((← get).anchors.lookup name).isSome then throw .malformed else pure ()

def add (node : Node) : Reading NodeId := do
  let state ← get
  set { state with nodes := state.nodes.push node }
  pure state.nodes.size

def named (anchor : Option Text) (node : Node) : Reading NodeId := do
  let id ← add node
  match anchor with
  | none => pure id
  | some name =>
    modify fun state => { state with anchors := (name, id) :: state.anchors }
    pure id

def filled {α : Type} (anchor : Option Text) (collection : List α → Node) (parts : Reading (List α)) :
    Reading NodeId := do
  let id ← named anchor (collection [])
  let parts ← parts
  modify fun state => { state with nodes := state.nodes.setIfInBounds id (collection parts) }
  pure id

structure Properties where
  anchor : Option Text
  tag : Option Text

def expanded (handle : Option Text) (suffix : Text) : Reading Text := do
  match handle with
  | none => pure suffix
  | some name =>
    match (← get).handles.lookup name with
    | some stem => pure (stem ++ suffix)
    | none => throw .malformed

def properties : Reading Properties := do
  match ← peek with
  | .anchor name =>
    skip
    match ← peek with
    | .tag handle suffix =>
      skip
      pure ⟨some name, some (← expanded handle suffix)⟩
    | _ => pure ⟨some name, none⟩
  | .tag handle suffix =>
    skip
    match ← peek with
    | .anchor name =>
      skip
      pure ⟨some name, some (← expanded handle suffix)⟩
    | _ => pure ⟨none, some (← expanded handle suffix)⟩
  | _ => pure ⟨none, none⟩

def scalarTag (plain : Bool) (tag : Option Text) (text : Text) : Tag :=
  match tag with
  | none => if plain then .ofPlain text else .text
  | some name => if name = Text.ofString "!" then .ofPlain text else .ofText name

def collectionTag (usual : Tag) : Option Text → Tag
  | none => usual
  | some name => if name = Text.ofString "!" then usual else .ofText name

inductive Position where
  | block
  | beside
  | flow
  deriving DecidableEq, Repr

mutual
-- Every call takes a token or leads to one that does, so the depth is bounded by
-- the number of tokens, and by nothing else.
def read (position : Position) : Nat → Reading NodeId
  | 0 => throw .malformed
  | fuel + 1 => do
    match ← peek with
    | .alias name =>
      skip
      referred name
    | _ =>
      let found ← properties
      let token ← peek
      claim found.anchor
      let list := filled found.anchor (.list (collectionTag .list found.tag))
      let mapping := filled found.anchor (.mapping (collectionTag .mapping found.tag))
      match token, position with
      | .blockEntry, .beside => list (readBeside fuel)
      | .scalar plain text, _ =>
        skip
        named found.anchor (.scalar (scalarTag plain found.tag text) text)
      | .flowSequence, _ =>
        skip
        list (readFlowItems true fuel)
      | .flowMapping, _ =>
        skip
        mapping (readFlowEntries true fuel)
      | .blockSequence, .block | .blockSequence, .beside =>
        skip
        list (readBlockItems fuel)
      | .blockMapping, .block | .blockMapping, .beside =>
        skip
        mapping (readBlockEntries fuel)
      | _, _ =>
        if found.anchor.isSome || found.tag.isSome then
          named found.anchor (.scalar (scalarTag true found.tag []) [])
        else throw .malformed

def readBlockItems : Nat → Reading (List NodeId)
  | 0 => throw .malformed
  | fuel + 1 => do
    match ← peek with
    | .blockEntry =>
      skip
      let item ← match ← peek with
        | .blockEntry | .blockEnd => add absent
        | _ => read .block fuel
      pure (item :: (← readBlockItems fuel))
    | .blockEnd =>
      skip
      pure []
    | _ => throw .malformed

-- Items that stand at the column of the key they belong to end without a mark.
def readBeside : Nat → Reading (List NodeId)
  | 0 => throw .malformed
  | fuel + 1 => do
    match ← peek with
    | .blockEntry =>
      skip
      let item ← match ← peek with
        | .blockEntry | .key | .value | .blockEnd => add absent
        | _ => read .block fuel
      pure (item :: (← readBeside fuel))
    | _ => pure []

def readBlockPart : Nat → Reading NodeId
  | 0 => throw .malformed
  | fuel + 1 => do
    match ← peek with
    | .key | .value | .blockEnd => add absent
    | _ => read .beside fuel

def readBlockEntries : Nat → Reading (List (NodeId × NodeId))
  | 0 => throw .malformed
  | fuel + 1 => do
    match ← peek with
    | .blockEnd =>
      skip
      pure []
    | .key =>
      skip
      let key ← readBlockPart fuel
      let value ← match ← peek with
        | .value =>
          skip
          readBlockPart fuel
        | _ => add absent
      pure ((key, value) :: (← readBlockEntries fuel))
    | _ => throw .malformed

def readFlowPart : Nat → Reading NodeId
  | 0 => throw .malformed
  | fuel + 1 => do
    match ← peek with
    | .value | .flowEntry | .flowSequenceEnd | .flowMappingEnd => add absent
    | _ => read .flow fuel

def readFlowValue : Nat → Reading NodeId
  | 0 => throw .malformed
  | fuel + 1 => do
    match ← peek with
    | .value =>
      skip
      readFlowPart fuel
    | _ => add absent

def readFlowItems (first : Bool) : Nat → Reading (List NodeId)
  | 0 => throw .malformed
  | fuel + 1 => do
    match ← peek with
    | .flowSequenceEnd =>
      skip
      pure []
    | token =>
      if !first then
        match token with
        | .flowEntry => skip
        | _ => throw .malformed
      match ← peek with
      | .flowSequenceEnd =>
        skip
        pure []
      | .key =>
        skip
        let pair ← filled none (.mapping .mapping) do
          let key ← readFlowPart fuel
          let value ← readFlowValue fuel
          pure [(key, value)]
        pure (pair :: (← readFlowItems false fuel))
      | _ =>
        let item ← read .flow fuel
        pure (item :: (← readFlowItems false fuel))

def readFlowEntries (first : Bool) : Nat → Reading (List (NodeId × NodeId))
  | 0 => throw .malformed
  | fuel + 1 => do
    match ← peek with
    | .flowMappingEnd =>
      skip
      pure []
    | token =>
      if !first then
        match token with
        | .flowEntry => skip
        | _ => throw .malformed
      match ← peek with
      | .flowMappingEnd =>
        skip
        pure []
      | .key =>
        skip
        let key ← readFlowPart fuel
        let value ← readFlowValue fuel
        pure ((key, value) :: (← readFlowEntries false fuel))
      | _ =>
        let key ← read .flow fuel
        let value ← add absent
        pure ((key, value) :: (← readFlowEntries false fuel))
end

def usualHandles : List (Text × Text) := [("!", "!"), ("!!", Tag.stem)]

def readDirectives (versioned : Bool) : Nat → Reading Unit
  | 0 => throw .malformed
  | fuel + 1 => do
    match ← peek with
    | .directive (.version major) =>
      skip
      if versioned ∨ major ≠ 1 then throw .malformed
      readDirectives true fuel
    | .directive (.handle name stem) =>
      skip
      if ((← get).handles.lookup name).isSome then throw .malformed
      modify fun state => { state with handles := (name, stem) :: state.handles }
      readDirectives versioned fuel
    | .directive .other =>
      skip
      readDirectives versioned fuel
    | _ => modify fun state => { state with handles := state.handles ++ usualHandles }

def readMarked (fuel : Nat) : Reading NodeId := do
  readDirectives false fuel
  match ← peek with
  | .documentStart =>
    skip
    match ← peek with
    | .directive _ | .documentStart | .documentEnd | .stop _ => add absent
    | _ => read .block fuel
  | _ => throw .malformed

-- Nothing may follow the one document but marks of its end. The directives of a
-- second one are still read.
def readEnd : Nat → Reading Unit
  | 0 => throw .malformed
  | fuel + 1 => do
    match ← peek with
    | .documentEnd =>
      skip
      readEnd fuel
    | .stop _ => pure ()
    | _ =>
      modify fun state => { state with handles := [] }
      readDirectives false fuel
      let _ ← peek
      throw .malformed

def readAll (fuel : Nat) : Reading (Option NodeId) := do
  match ← peek with
  | .stop _ => pure none
  | .directive _ | .documentStart =>
    let root ← readMarked fuel
    readEnd fuel
    pure (some root)
  | _ =>
    modify fun state => { state with handles := usualHandles }
    let root ← read .block fuel
    readEnd fuel
    pure (some root)

end Node

def Nodes.ofTokens (tokens : List Token) : Except Fault (Option NodeId × Nodes) :=
  (Node.readAll (4 * tokens.length + 4) |>.run ⟨tokens, #[], [], []⟩).map fun (root, state) => (root, state.nodes)

end ChangeCapture.Yaml
