import ChangeCapture.Proofs.Yaml.Sound
import ChangeCapture.Yaml.Unfolding

namespace ChangeCapture.Yaml

namespace Node

variable {tokens : List Token}

-- A node as the tokens of a text account for it. Where no type is written out, a
-- plain scalar has the type that it looks like, and anything else the usual one.
inductive Sourced (tokens : List Token) : Node → Prop
  | tagged {handle : Option Text} {suffix : Text} {node : Node} : .tag handle suffix ∈ tokens → Sourced tokens node
  | absent : Sourced tokens absent
  | plain {text : Text} : .scalar true text ∈ tokens → Sourced tokens (.scalar (.ofPlain text) text)
  | text {text : Text} : Sourced tokens (.scalar .text text)
  | list {items : List NodeId} : Sourced tokens (.list .list items)
  | mapping {entries : List (NodeId × NodeId)} : Sourced tokens (.mapping .mapping entries)

structure State.Sourced (all : List Token) (state : State) : Prop where
  tokens : ∀ token ∈ state.tokens, token ∈ all
  nodes : ∀ node ∈ state.nodes, node.Sourced all

def Told (tokens : List Token) (fault : Fault) : Prop := fault = .malformed ∨ .stop (some fault) ∈ tokens

abbrev Reads (tokens : List Token) {α : Type} (step : Reading α) (post : α → Prop) : Prop :=
  Sound (State.Sourced tokens) (Told tokens) step post

theorem reads_malformed {α : Type} {post : α → Prop} : Reads tokens (throw .malformed : Reading α) post :=
  sound_throw (.inl rfl)

theorem reads_malformed_bind {α β : Type} {next : α → Reading β} {post : β → Prop} :
    Reads tokens (throw .malformed >>= next) post :=
  sound_bind (@reads_malformed tokens α fun _ => False) fun _ => False.elim

theorem reads_peek : Reads tokens peek fun token => token = .stop none ∨ token ∈ tokens := by
  refine sound_bind sound_get fun state sourced => ?_
  split
  · rename_i same
    exact sound_throw (.inr (sourced.tokens _ (by simp [same])))
  · rename_i same
    exact sound_pure (.inr (sourced.tokens _ (by simp [same])))
  · exact sound_pure (.inl rfl)

theorem reads_skip : Reads tokens skip fun _ => True := by
  apply sound_modify
  intro state sourced
  exact ⟨fun token member => sourced.tokens token (List.mem_of_mem_drop member), sourced.nodes⟩

theorem reads_referred (name : Text) : Reads tokens (referred name) fun _ => True := by
  refine sound_bind sound_get fun state _ => ?_
  split
  · exact sound_pure trivial
  · exact reads_malformed

theorem reads_claim (anchor : Option Text) : Reads tokens (claim anchor) fun _ => True := by
  unfold claim
  split
  · exact sound_pure trivial
  · refine sound_bind sound_get fun state _ => ?_
    split
    · exact reads_malformed
    · exact sound_pure trivial

theorem reads_add {node : Node} (sourced : node.Sourced tokens) : Reads tokens (add node) fun _ => True := by
  refine sound_bind sound_get fun state held => ?_
  refine sound_bind (sound_set ⟨held.tokens, ?_⟩) fun _ _ => sound_pure trivial
  intro other member
  rcases Array.mem_push.mp member with present | rfl
  · exact held.nodes other present
  · exact sourced

theorem reads_named {anchor : Option Text} {node : Node} (sourced : node.Sourced tokens) :
    Reads tokens (named anchor node) fun _ => True := by
  refine sound_bind (reads_add sourced) fun id _ => ?_
  split
  · exact sound_pure trivial
  · exact sound_bind (sound_modify fun state held => ⟨held.tokens, held.nodes⟩) fun _ _ => sound_pure trivial

theorem reads_filled {α : Type} {anchor : Option Text} {collection : List α → Node} {parts : Reading (List α)} {post : List α → Prop}
    (sourced : ∀ parts, (collection parts).Sourced tokens) (reads : Reads tokens parts post) :
    Reads tokens (filled anchor collection parts) fun _ => True := by
  refine sound_bind (reads_named (sourced [])) fun id _ => sound_bind reads fun parts _ => ?_
  refine sound_bind (sound_modify fun state held => ⟨held.tokens, ?_⟩) fun _ _ => sound_pure trivial
  intro node member
  rcases Array.mem_or_eq_of_mem_setIfInBounds member with present | rfl
  · exact held.nodes node present
  · exact sourced parts

theorem reads_expanded (handle : Option Text) (suffix : Text) : Reads tokens (expanded handle suffix) fun _ => True := by
  unfold expanded
  split
  · exact sound_pure trivial
  · refine sound_bind sound_get fun state _ => ?_
    split
    · exact sound_pure trivial
    · exact reads_malformed

def Tagged (tokens : List Token) : Prop := ∃ handle suffix, .tag handle suffix ∈ tokens

theorem reads_properties : Reads tokens properties fun found => found.tag.isSome → Tagged tokens := by
  have expands : ∀ (handle : Option Text) (suffix : Text) (anchor : Option Text), Token.tag handle suffix ∈ tokens →
      Reads tokens (do pure ⟨anchor, some (← expanded handle suffix)⟩) fun found : Properties => found.tag.isSome → Tagged tokens :=
    fun handle suffix _ written => sound_bind (reads_expanded handle suffix) fun _ _ => sound_pure fun _ => ⟨handle, suffix, written⟩
  unfold properties
  refine sound_bind reads_peek fun first atFirst => ?_
  split
  · refine sound_bind reads_skip fun _ _ => sound_bind reads_peek fun second atSecond => ?_
    split
    · refine sound_bind reads_skip fun _ _ => ?_
      exact expands _ _ _ (atSecond.resolve_left nofun)
    · exact sound_pure nofun
  · have written := atFirst.resolve_left nofun
    refine sound_bind reads_skip fun _ _ => sound_bind reads_peek fun second atSecond => ?_
    split
    · refine sound_bind reads_skip fun _ _ => ?_
      exact expands _ _ _ written
    · exact expands _ _ _ written
  · exact sound_pure nofun

theorem sourced_scalar {plain : Bool} {tag : Option Text} {text : Text} (read : .scalar plain text ∈ tokens)
    (written : tag.isSome → Tagged tokens) : (Node.scalar (scalarTag plain tag text) text).Sourced tokens := by
  cases tag with
  | some name =>
    obtain ⟨_, _, written⟩ := written rfl
    exact .tagged written
  | none =>
    cases plain with
    | true => exact .plain read
    | false => exact .text

theorem sourced_absent {tag : Option Text} (written : tag.isSome → Tagged tokens) :
    (Node.scalar (scalarTag true tag []) []).Sourced tokens := by
  cases tag with
  | some name =>
    obtain ⟨_, _, written⟩ := written rfl
    exact .tagged written
  | none => exact .absent

theorem sourced_list {tag : Option Text} (written : tag.isSome → Tagged tokens) (items : List NodeId) :
    (Node.list (collectionTag .list tag) items).Sourced tokens := by
  cases tag with
  | some name =>
    obtain ⟨_, _, written⟩ := written rfl
    exact .tagged written
  | none => exact .list

theorem sourced_mapping {tag : Option Text} (written : tag.isSome → Tagged tokens) (entries : List (NodeId × NodeId)) :
    (Node.mapping (collectionTag .mapping tag) entries).Sourced tokens := by
  cases tag with
  | some name =>
    obtain ⟨_, _, written⟩ := written rfl
    exact .tagged written
  | none => exact .mapping

-- What the readers of the parts of a document keep, on one level of their recursion.
structure Level (tokens : List Token) (fuel : Nat) : Prop where
  read : ∀ position, Reads tokens (read position fuel) fun _ => True
  blockItems : Reads tokens (readBlockItems fuel) fun _ => True
  beside : Reads tokens (readBeside fuel) fun _ => True
  blockPart : Reads tokens (readBlockPart fuel) fun _ => True
  blockEntries : Reads tokens (readBlockEntries fuel) fun _ => True
  flowPart : Reads tokens (readFlowPart fuel) fun _ => True
  flowValue : Reads tokens (readFlowValue fuel) fun _ => True
  flowItems : ∀ first, Reads tokens (readFlowItems first fuel) fun _ => True
  flowEntries : ∀ first, Reads tokens (readFlowEntries first fuel) fun _ => True

theorem level_zero : Level tokens 0 where
  read _ := by
    unfold Node.read
    exact reads_malformed
  blockItems := by
    unfold readBlockItems
    exact reads_malformed
  beside := by
    unfold readBeside
    exact reads_malformed
  blockPart := by
    unfold readBlockPart
    exact reads_malformed
  blockEntries := by
    unfold readBlockEntries
    exact reads_malformed
  flowPart := by
    unfold readFlowPart
    exact reads_malformed
  flowValue := by
    unfold readFlowValue
    exact reads_malformed
  flowItems _ := by
    unfold readFlowItems
    exact reads_malformed
  flowEntries _ := by
    unfold readFlowEntries
    exact reads_malformed

variable {fuel : Nat}

theorem reads_absent : Reads tokens (add absent) fun _ => True := reads_add .absent

theorem Level.read_succ (level : Level tokens fuel) (position : Position) :
    Reads tokens (Node.read position (fuel + 1)) fun _ => True := by
  unfold Node.read
  refine sound_bind reads_peek fun token _ => ?_
  split
  · exact sound_bind reads_skip fun _ _ => reads_referred _
  · refine sound_bind reads_properties fun found written => sound_bind reads_peek fun token within => ?_
    refine sound_bind (reads_claim _) fun _ _ => ?_
    dsimp only
    split
    · exact reads_filled (sourced_list written) level.beside
    · refine sound_bind reads_skip fun _ _ => reads_named (sourced_scalar (within.resolve_left (by simp)) written)
    · exact sound_bind reads_skip fun _ _ => reads_filled (sourced_list written) (level.flowItems true)
    · exact sound_bind reads_skip fun _ _ => reads_filled (sourced_mapping written) (level.flowEntries true)
    · exact sound_bind reads_skip fun _ _ => reads_filled (sourced_list written) level.blockItems
    · exact sound_bind reads_skip fun _ _ => reads_filled (sourced_list written) level.blockItems
    · exact sound_bind reads_skip fun _ _ => reads_filled (sourced_mapping written) level.blockEntries
    · exact sound_bind reads_skip fun _ _ => reads_filled (sourced_mapping written) level.blockEntries
    · split
      · exact reads_named (sourced_absent written)
      · exact reads_malformed

theorem Level.blockItems_succ (level : Level tokens fuel) : Reads tokens (readBlockItems (fuel + 1)) fun _ => True := by
  have rest : ∀ item, Reads tokens (do pure (item :: (← readBlockItems fuel))) fun _ => True :=
    fun item => sound_bind level.blockItems fun _ _ => sound_pure trivial
  unfold readBlockItems
  refine sound_bind reads_peek fun token _ => ?_
  split
  · refine sound_bind reads_skip fun _ _ => sound_bind reads_peek fun token _ => ?_
    split
    · exact sound_bind reads_absent fun item _ => rest item
    · exact sound_bind reads_absent fun item _ => rest item
    · exact sound_bind (level.read _) fun item _ => rest item
  · exact sound_bind reads_skip fun _ _ => sound_pure trivial
  · exact reads_malformed

theorem Level.beside_succ (level : Level tokens fuel) : Reads tokens (readBeside (fuel + 1)) fun _ => True := by
  have rest : ∀ item, Reads tokens (do pure (item :: (← readBeside fuel))) fun _ => True :=
    fun item => sound_bind level.beside fun _ _ => sound_pure trivial
  unfold readBeside
  refine sound_bind reads_peek fun token _ => ?_
  split
  · refine sound_bind reads_skip fun _ _ => sound_bind reads_peek fun token _ => ?_
    split
    · exact sound_bind reads_absent fun item _ => rest item
    · exact sound_bind reads_absent fun item _ => rest item
    · exact sound_bind reads_absent fun item _ => rest item
    · exact sound_bind reads_absent fun item _ => rest item
    · exact sound_bind (level.read _) fun item _ => rest item
  · exact sound_pure trivial

theorem Level.blockPart_succ (level : Level tokens fuel) : Reads tokens (readBlockPart (fuel + 1)) fun _ => True := by
  unfold readBlockPart
  refine sound_bind reads_peek fun token _ => ?_
  split
  · exact reads_absent
  · exact reads_absent
  · exact reads_absent
  · exact level.read _

theorem Level.blockEntries_succ (level : Level tokens fuel) : Reads tokens (readBlockEntries (fuel + 1)) fun _ => True := by
  have rest : ∀ key value, Reads tokens (do pure ((key, value) :: (← readBlockEntries fuel))) fun _ => True :=
    fun key value => sound_bind level.blockEntries fun _ _ => sound_pure trivial
  unfold readBlockEntries
  refine sound_bind reads_peek fun token _ => ?_
  split
  · exact sound_bind reads_skip fun _ _ => sound_pure trivial
  · refine sound_bind reads_skip fun _ _ => sound_bind level.blockPart fun key _ => sound_bind reads_peek fun token _ => ?_
    split
    · exact sound_bind reads_skip fun _ _ => sound_bind level.blockPart fun value _ => rest key value
    · exact sound_bind reads_absent fun value _ => rest key value
  · exact reads_malformed

theorem Level.flowPart_succ (level : Level tokens fuel) : Reads tokens (readFlowPart (fuel + 1)) fun _ => True := by
  unfold readFlowPart
  refine sound_bind reads_peek fun token _ => ?_
  split
  · exact reads_absent
  · exact reads_absent
  · exact reads_absent
  · exact reads_absent
  · exact level.read _

theorem Level.flowValue_succ (level : Level tokens fuel) : Reads tokens (readFlowValue (fuel + 1)) fun _ => True := by
  unfold readFlowValue
  refine sound_bind reads_peek fun token _ => ?_
  split
  · exact sound_bind reads_skip fun _ _ => level.flowPart
  · exact reads_absent

theorem reads_comma (token : Token) (first : Bool) {α : Type} {next : Reading α} (reads : Reads tokens next fun _ => True) :
    Reads tokens (do
      if !first then
        match token with
        | .flowEntry => skip
        | _ => throw .malformed
      next) fun _ => True := by
  cases first with
  | true => exact reads
  | false =>
    cases token with
    | flowEntry => exact sound_bind reads_skip fun _ _ => reads
    | _ => exact reads_malformed_bind

theorem Level.flowItems_succ (level : Level tokens fuel) (first : Bool) :
    Reads tokens (readFlowItems first (fuel + 1)) fun _ => True := by
  have rest : ∀ item, Reads tokens (do pure (item :: (← readFlowItems false fuel))) fun _ => True :=
    fun item => sound_bind (level.flowItems false) fun _ _ => sound_pure trivial
  have couple : Reads tokens (do
      let key ← readFlowPart fuel
      let value ← readFlowValue fuel
      pure [(key, value)]) fun _ => True :=
    sound_bind level.flowPart fun _ _ => sound_bind level.flowValue fun _ _ => sound_pure trivial
  unfold readFlowItems
  refine sound_bind reads_peek fun token _ => ?_
  split
  · exact sound_bind reads_skip fun _ _ => sound_pure trivial
  · refine reads_comma _ first ?_
    refine sound_bind reads_peek fun token _ => ?_
    split
    · exact sound_bind reads_skip fun _ _ => sound_pure trivial
    · refine sound_bind reads_skip fun _ _ => ?_
      exact sound_bind (reads_filled (fun _ => .mapping) couple) fun pair _ => rest pair
    · exact sound_bind (level.read _) fun item _ => rest item

theorem Level.flowEntries_succ (level : Level tokens fuel) (first : Bool) :
    Reads tokens (readFlowEntries first (fuel + 1)) fun _ => True := by
  have rest : ∀ key value, Reads tokens (do pure ((key, value) :: (← readFlowEntries false fuel))) fun _ => True :=
    fun key value => sound_bind (level.flowEntries false) fun _ _ => sound_pure trivial
  unfold readFlowEntries
  refine sound_bind reads_peek fun token _ => ?_
  split
  · exact sound_bind reads_skip fun _ _ => sound_pure trivial
  · refine reads_comma _ first ?_
    refine sound_bind reads_peek fun token _ => ?_
    split
    · exact sound_bind reads_skip fun _ _ => sound_pure trivial
    · refine sound_bind reads_skip fun _ _ => sound_bind level.flowPart fun key _ => ?_
      exact sound_bind level.flowValue fun value _ => rest key value
    · exact sound_bind (level.read _) fun key _ => sound_bind reads_absent fun value _ => rest key value

theorem level (fuel : Nat) : Level tokens fuel := by
  induction fuel with
  | zero => exact level_zero
  | succ fuel ih =>
    exact ⟨ih.read_succ, ih.blockItems_succ, ih.beside_succ, ih.blockPart_succ, ih.blockEntries_succ, ih.flowPart_succ,
      ih.flowValue_succ, ih.flowItems_succ, ih.flowEntries_succ⟩

theorem reads_directives (versioned : Bool) (fuel : Nat) : Reads tokens (readDirectives versioned fuel) fun _ => True := by
  induction fuel generalizing versioned with
  | zero => exact reads_malformed
  | succ fuel ih =>
    unfold readDirectives
    refine sound_bind reads_peek fun token _ => ?_
    split
    · refine sound_bind reads_skip fun _ _ => ?_
      split
      · exact reads_malformed_bind
      · exact ih _
    · refine sound_bind reads_skip fun _ _ => sound_bind sound_get fun state _ => ?_
      split
      · exact reads_malformed_bind
      · exact sound_bind (sound_modify fun state held => ⟨held.tokens, held.nodes⟩) fun _ _ => ih _
    · exact sound_bind reads_skip fun _ _ => ih _
    · exact sound_modify fun state held => ⟨held.tokens, held.nodes⟩

theorem reads_marked (fuel : Nat) : Reads tokens (readMarked fuel) fun _ => True := by
  refine sound_bind (reads_directives false fuel) fun _ _ => sound_bind reads_peek fun token _ => ?_
  split
  · refine sound_bind reads_skip fun _ _ => sound_bind reads_peek fun token _ => ?_
    split
    · exact reads_absent
    · exact reads_absent
    · exact reads_absent
    · exact reads_absent
    · exact (level fuel).read _
  · exact reads_malformed

theorem reads_end (fuel : Nat) : Reads tokens (readEnd fuel) fun _ => True := by
  induction fuel with
  | zero => exact reads_malformed
  | succ fuel ih =>
    unfold readEnd
    refine sound_bind reads_peek fun token _ => ?_
    split
    · exact sound_bind reads_skip fun _ _ => ih
    · exact sound_pure trivial
    · refine sound_bind (sound_modify fun state held => ⟨held.tokens, held.nodes⟩) fun _ _ => ?_
      refine sound_bind (reads_directives false fuel) fun _ _ => sound_bind reads_peek fun _ _ => ?_
      exact reads_malformed

theorem reads_all (fuel : Nat) : Reads tokens (readAll fuel) fun _ => True := by
  refine sound_bind reads_peek fun token _ => ?_
  split
  · exact sound_pure trivial
  · exact sound_bind (reads_marked fuel) fun _ _ => sound_bind (reads_end fuel) fun _ _ => sound_pure trivial
  · exact sound_bind (reads_marked fuel) fun _ _ => sound_bind (reads_end fuel) fun _ _ => sound_pure trivial
  · refine sound_bind (sound_modify fun state held => ⟨held.tokens, held.nodes⟩) fun _ _ => ?_
    exact sound_bind ((level fuel).read _) fun _ _ => sound_bind (reads_end fuel) fun _ _ => sound_pure trivial

end Node

-- The nodes of a text are accounted for by its tokens, and it has none for a fault of
-- its form or the one that its tokens end in.
theorem sourced_of_ofTokens (tokens : List Token) :
    Fine (Node.Told tokens) (Nodes.ofTokens tokens) fun found => ∀ node ∈ found.2, node.Sourced tokens := by
  have start : Node.State.Sourced tokens ⟨tokens, #[], [], []⟩ := ⟨fun _ member => member, nofun⟩
  exact (Node.reads_all (4 * tokens.length + 4) _ start).map fun found held => held.2.nodes

end ChangeCapture.Yaml
