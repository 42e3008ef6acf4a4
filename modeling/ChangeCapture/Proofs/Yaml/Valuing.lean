import ChangeCapture.Proofs.Yaml.Composing
import ChangeCapture.Proofs.Yaml.Scanning

namespace ChangeCapture.Yaml

def Scalar.ofTag (tag : Tag) (text : Text) : Except Fault Document :=
  match tag with
  | .null => .ok .null
  | .bool => bool text
  | .int => int text
  | .float => float text
  | .binary => binary text
  | .timestamp => timestamp text
  | .text => .ok (.text text)
  | _ => .error .malformed

-- A plain scalar that looks like a type which then refuses it.
def Misread (tokens : List Token) (mishap : Mishap) : Prop :=
  ∃ text, .scalar true text ∈ tokens ∧ Scalar.ofTag (.ofPlain text) text = .error (.refused mishap)

variable {tokens : List Token} {nodes : Nodes} {id : NodeId}

def Nodes.Sourced (tokens : List Token) (nodes : Nodes) : Prop := ∀ node ∈ nodes, node.Sourced tokens

namespace Nodes

theorem Sourced.node? {node : Node} (sourced : nodes.Sourced tokens) (found : nodes.node? id = some node) : node.Sourced tokens :=
  sourced node (Array.mem_of_getElem? found)

theorem Sourced.setIfInBounds {node : Node} (sourced : nodes.Sourced tokens) (new : node.Sourced tokens) :
    Nodes.Sourced tokens (nodes.setIfInBounds id node) := by
  intro other member
  rcases Array.mem_or_eq_of_mem_setIfInBounds member with present | rfl
  · exact sourced other present
  · exact new

theorem Sourced.withEntries (sourced : nodes.Sourced tokens) (id : NodeId) (entries : NodeEntries) :
    Nodes.Sourced tokens (nodes.withEntries id entries) := by
  unfold Nodes.withEntries
  split
  · rename_i found
    apply sourced.setIfInBounds
    cases sourced.node? found with
    | tagged written => exact .tagged written
    | mapping => exact .mapping
  · exact sourced

theorem Sourced.withPlainKey (sourced : nodes.Sourced tokens) (id : NodeId) : Nodes.Sourced tokens (nodes.withPlainKey id) := by
  unfold Nodes.withPlainKey
  split
  · exact sourced.setIfInBounds .text
  · rename_i found
    apply sourced.setIfInBounds
    cases sourced.node? found with
    | tagged written => exact .tagged written
  · rename_i found
    apply sourced.setIfInBounds
    cases sourced.node? found with
    | tagged written => exact .tagged written
  · exact sourced

theorem Sourced.withPlainKeys (sourced : nodes.Sourced tokens) (id : NodeId) : Nodes.Sourced tokens (nodes.withPlainKeys id) := by
  unfold Nodes.withPlainKeys
  generalize nodes.entries id = entries
  induction entries generalizing nodes with
  | nil => exact sourced
  | cons entry rest ih => exact ih (sourced.withPlainKey entry.1)

theorem text_of_node {tag : Tag} {text : Text} (fuel : Nat) (found : nodes.node? id = some (.scalar tag text)) :
    nodes.text (fuel + 1) id = .ok text := by
  rw [Nodes.text]
  simp only [found]

theorem scalar_of_node {tag : Tag} {text : Text} (found : nodes.node? id = some (.scalar tag text)) :
    ∃ origin, nodes.scalar id = (Scalar.ofTag tag text).map fun document => ⟨document, origin⟩ := by
  have tagged : nodes.tag id = tag := by
    unfold Nodes.tag
    rw [found]
    rfl
  have isScalar : nodes.isScalar id := by
    unfold Nodes.isScalar
    rw [found]
  refine ⟨if Scalar.isUsualNaN text then none else some id, ?_⟩
  unfold Nodes.scalar Scalar.ofTag
  rw [tagged, text_of_node nodes.size found, isScalar]
  cases tag <;> rfl

theorem told_scalar {mishap : Mishap} (sourced : nodes.Sourced tokens) (refused : nodes.scalar id = .error (.refused mishap)) :
    Node.Tagged tokens ∨ Misread tokens mishap := by
  cases found : nodes.node? id with
  | none =>
    have foreign : nodes.tag id = .foreign := by
      unfold Nodes.tag
      rw [found]
      rfl
    unfold Nodes.scalar at refused
    rw [foreign] at refused
    cases refused
  | some node =>
    have read {tag : Tag} {text : Text} (same : node = .scalar tag text) :
        Scalar.ofTag tag text = .error (.refused mishap) := by
      rw [same] at found
      obtain ⟨_, told⟩ := scalar_of_node found
      rw [told] at refused
      cases outcome : Scalar.ofTag tag text with
      | ok document =>
        rw [outcome] at refused
        cases refused
      | error fault =>
        rw [outcome] at refused
        cases refused
        rfl
    have ofTag : nodes.tag id = node.tag := by
      unfold Nodes.tag
      rw [found]
      rfl
    cases sourced.node? found with
    | tagged written => exact .inl ⟨_, _, written⟩
    | absent => cases read rfl
    | plain written => exact .inr ⟨_, written, read rfl⟩
    | text => cases read rfl
    | list | mapping =>
      unfold Nodes.scalar at refused
      rw [ofTag] at refused
      cases refused

end Nodes

namespace Merging

theorem sound_takeSource (id : NodeId) :
    Sound (Nodes.Sourced tokens) (· = .malformed) (takeSource id) fun _ => True := by
  refine sound_bind sound_get fun nodes sourced => ?_
  split
  · exact sound_pure trivial
  · exact sound_bind (sound_set (sourced.withEntries _ _)) fun _ _ => sound_pure trivial

theorem sound_merged (fuel : Nat) (id : NodeId) :
    Sound (Nodes.Sourced tokens) (· = .malformed) (merged fuel id) fun _ => True := by
  induction fuel generalizing id with
  | zero => exact sound_throw rfl
  | succ fuel ih =>
    unfold merged
    refine sound_bind (sound_takeSource id) fun source _ => ?_
    split
    · refine sound_bind (sound_modify fun nodes sourced => sourced.withPlainKeys id) fun _ _ => ?_
      exact sound_bind sound_get fun _ _ => sound_pure trivial
    · have rest : ∀ offered : NodeEntries, Sound (Nodes.Sourced tokens) (· = .malformed) (do
          let entries := offered ++ (← merged fuel id)
          modify fun nodes : Nodes => nodes.withEntries id entries
          return entries : Merging NodeEntries) fun _ => True := fun offered =>
        sound_bind (ih id) fun _ _ => sound_bind (sound_modify fun nodes sourced => sourced.withEntries _ _) fun _ _ =>
          sound_pure trivial
      refine sound_bind sound_get fun nodes _ => ?_
      dsimp only
      split
      · exact sound_bind (ih _) fun offered _ => rest offered
      · refine sound_bind (sound_mapM fun item _ => ?_) fun groups _ => rest _
        split
        · exact ih _
        · exact sound_throw rfl
      · have stopped : Sound (Nodes.Sourced tokens) (· = .malformed) (throw .malformed : Merging NodeEntries) fun _ => False :=
          sound_throw rfl
        exact sound_bind stopped fun _ => False.elim

end Merging

namespace Valuing

def Told (tokens : List Token) : Fault → Prop
  | .malformed => True
  | .refused mishap => Node.Tagged tokens ∨ Misread tokens mishap

def Sourced (tokens : List Token) (state : Valuation) : Prop := state.nodes.Sourced tokens

abbrev Values (tokens : List Token) {α : Type} (step : Valuing α) : Prop :=
  Sound (Sourced tokens) (Told tokens) step fun _ => True

theorem values_malformed {α : Type} : Values tokens (throw .malformed : Valuing α) := sound_throw trivial

theorem values_value (id : NodeId) : Values tokens (value id) := by
  refine sound_bind sound_get fun state sourced => ?_
  split
  · exact sound_pure trivial
  · split
    · exact sound_bind (sound_set sourced) fun _ _ => sound_pure trivial
    · have read : Values tokens (liftM (state.nodes.scalar id) : Valuing Read) := by
        refine sound_lift ⟨?_, fun _ _ => trivial⟩
        intro fault refused
        cases fault with
        | malformed => trivial
        | refused mishap => exact Nodes.told_scalar sourced refused
      exact sound_bind read fun _ _ => sound_bind (sound_set sourced) fun _ _ => sound_pure trivial

theorem values_key (id : NodeId) : Values tokens (key id) := by
  refine sound_bind (values_value id) fun value _ => ?_
  split
  · exact sound_pure trivial
  · exact values_malformed

theorem values_merged (id : NodeId) : Values tokens (merged id) := by
  refine sound_bind sound_get fun state sourced => ?_
  have merges : Sound (Sourced tokens) (Told tokens)
      (liftM ((Merging.merged (state.merges + 1) id).run state.nodes) : Valuing (NodeEntries × Nodes))
      fun found => found.2.Sourced tokens := by
    apply sound_lift
    apply (Merging.sound_merged (state.merges + 1) id state.nodes sourced).mono
    · intro fault same
      rw [same]
      trivial
    · exact fun found held => held.2
  refine sound_bind merges fun found kept => ?_
  exact sound_bind (sound_set kept) fun _ _ => sound_pure trivial

theorem values_entries (id : NodeId) : Values tokens (entries id) := by
  refine sound_bind (values_merged id) fun pairs _ => sound_bind (sound_mapM fun entry _ => ?_) fun _ _ => sound_pure trivial
  exact sound_bind (values_key _) fun _ _ => sound_bind (values_value _) fun _ _ => sound_pure trivial

theorem values_couple (id : NodeId) : Values tokens (couple id) := by
  refine sound_bind sound_get fun state _ => ?_
  split
  · exact sound_bind (values_value _) fun _ _ => sound_bind (values_value _) fun _ _ => sound_pure trivial
  · exact values_malformed

theorem values_contents (id : NodeId) : Values tokens (contents id) := by
  refine sound_bind sound_get fun state _ => ?_
  dsimp only
  split
  · exact sound_bind (sound_mapM fun _ _ => values_value _) fun _ _ => sound_pure trivial
  · exact sound_bind (sound_mapM fun _ _ => values_couple _) fun _ _ => sound_pure trivial
  · exact sound_bind (sound_mapM fun _ _ => values_couple _) fun _ _ => sound_pure trivial
  · exact sound_bind (values_entries id) fun _ _ => sound_pure trivial
  · exact sound_bind (values_entries id) fun _ _ => sound_pure trivial
  · exact values_malformed

theorem values_fill (id : NodeId) : Values tokens (fill id) :=
  sound_bind (values_contents id) fun _ _ => sound_modify fun _ sourced => sourced

theorem values_fillAll (fuel : Nat) : Values tokens (fillAll fuel) := by
  induction fuel with
  | zero => exact sound_pure trivial
  | succ fuel ih =>
    unfold fillAll
    refine sound_bind sound_get fun state _ => ?_
    split
    · exact sound_pure trivial
    · refine sound_bind (sound_modify fun _ sourced => sourced) fun _ _ => ?_
      exact sound_bind (sound_forM fun _ _ => values_fill _) fun _ _ => ih

theorem values_root (id : NodeId) : Values tokens (root id) := by
  refine sound_bind (values_value id) fun _ _ => sound_bind sound_get fun state _ => ?_
  exact sound_bind (values_fillAll _) fun _ _ => sound_pure trivial

end Valuing

theorem fine_value (sourced : nodes.Sourced tokens) (id : NodeId) : Fine (Valuing.Told tokens) (nodes.value id) fun _ => True :=
  (Valuing.values_root id ⟨nodes, nodes.mergeCount, Array.replicate nodes.size none, Array.replicate nodes.size none, []⟩
    sourced).map fun _ _ => trivial

-- A text is refused for a spelling that stands for nothing, or for a scalar that has a
-- tag or looks like what it is not. Any other text is malformed or has a value.
inductive Refusal (text : Text) (mishap : Mishap) : Prop
  | misspelled : Misspelled text (.refused mishap) → Refusal text mishap
  | tagged : .char '!' ∈ text → Refusal text mishap
  | misread : Misread (Token.ofText text) mishap → Refusal text mishap

theorem fine_read (text : Text) : Fine (fun fault => Node.Told (Token.ofText text) fault ∨ Valuing.Told (Token.ofText text) fault)
    (read text) fun _ => True := by
  unfold read
  refine Fine.bind ((sourced_of_ofTokens (Token.ofText text)).mono (fun _ => .inl) fun _ => id) fun found sourced => ?_
  split
  · exact fine_ok trivial
  · rename_i root nodes
    refine Fine.bind ((fine_value sourced root).mono (fun _ => .inr) fun _ => id) fun _ _ => ?_
    exact fine_ok trivial

theorem refusal_of_read {text : Text} {mishap : Mishap} (refused : read text = .error (.refused mishap)) :
    Refusal text mishap := by
  rcases (fine_read text).1 _ refused with composing | valuing
  · have ended := composing.resolve_left nofun
    rcases token_of_text text _ ended with spelled | none | ⟨fault, same, misspelled⟩
    · cases spelled
    · cases none
    · cases same
      exact .misspelled misspelled
  · rcases valuing with tagged | misread
    · obtain ⟨_, _, written⟩ := tagged
      rcases token_of_text text _ written with spelled | none | ⟨_, same, -⟩
      · exact .tagged spelled
      · cases none
      · cases same
    · exact .misread misread

end ChangeCapture.Yaml
