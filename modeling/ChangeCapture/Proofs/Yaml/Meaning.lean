import ChangeCapture.Proofs.Outcome
import ChangeCapture.Proofs.Yaml.Valuing
import ChangeCapture.Yaml.Unfolding
import Mathlib.Data.List.TakeDrop
import Mathlib.Data.List.TakeWhile

namespace ChangeCapture.Yaml

def Node.children : Node → List NodeId
  | .scalar _ _ => []
  | .list _ items => items
  | .mapping _ entries => entries.map Prod.snd

-- A node that means a document, by what its parts mean. Nodes lead to later ones only, and
-- the keys of a mapping are different texts.
def Node.Means (nodes : Nodes) (meaning : NodeId → Document) (id : NodeId) : Node → Prop
  | .scalar tag text => Scalar.ofTag tag text = .ok (meaning id)
  | .list tag items => tag = .list ∧ meaning id = .list (items.map meaning)
  | .mapping tag entries => tag = .mapping ∧
    meaning id = .mapping (entries.map fun entry => (meaning entry.1, meaning entry.2)) ∧
    (∀ entry ∈ entries, ∃ key, nodes.node? entry.1 = some (.scalar .text key)) ∧
    (entries.map fun entry => meaning entry.1).Nodup

structure Nodes.Mean (nodes : Nodes) (meaning : NodeId → Document) : Prop where
  means : ∀ id node, nodes.node? id = some node → node.Means nodes meaning id
  later : ∀ id node, nodes.node? id = some node → ∀ child ∈ node.children, id < child ∧ child < nodes.size

namespace Nodes

variable {nodes : Nodes} {meaning : NodeId → Document} {id : NodeId}

def readAt (nodes : Nodes) (id : NodeId) : Read := (nodes.scalar id).toOption.getD ⟨.null, none⟩

def valueAt (nodes : Nodes) (id : NodeId) : Value := if nodes.isCollection id then .collection id else .scalar (nodes.readAt id)

def contentsAt (nodes : Nodes) (id : NodeId) : Option Contents :=
  match nodes.node? id with
  | some (.list _ items) => some (.list (items.map nodes.valueAt))
  | some (.mapping _ entries) => some (.mapping (entries.map fun entry => (nodes.readAt entry.1, nodes.valueAt entry.2)))
  | _ => none

def childrenOf (nodes : Nodes) (id : NodeId) : List NodeId := ((nodes.node? id).map Node.children).getD []

theorem tag_of_node {node : Node} (found : nodes.node? id = some node) : nodes.tag id = node.tag := by
  rw [Nodes.tag, found]
  rfl

theorem scalar_of_means {tag : Tag} {text : Text} (found : nodes.node? id = some (.scalar tag text))
    (means : Scalar.ofTag tag text = .ok (meaning id)) :
    nodes.isCollection id = false ∧ nodes.scalar id = .ok (nodes.readAt id) ∧ (nodes.readAt id).document = meaning id := by
  obtain ⟨origin, read⟩ := scalar_of_node found
  rw [means] at read
  refine ⟨?_, ?_, ?_⟩
  · rw [isCollection, tag_of_node found]
    cases tag with
    | list | mapping | set | ordered | pairs => cases means
    | null | bool | int | float | binary | timestamp | text | merge | default | foreign => rfl
  · rw [readAt, read]
    rfl
  · rw [readAt, read]
    rfl

theorem Mean.of_scalar (mean : nodes.Mean meaning) {tag : Tag} {text : Text} (found : nodes.node? id = some (.scalar tag text)) :
    nodes.isCollection id = false ∧ nodes.scalar id = .ok (nodes.readAt id) ∧ (nodes.readAt id).document = meaning id :=
  scalar_of_means found (mean.means id _ found)

theorem Mean.isCollection_iff (mean : nodes.Mean meaning) {node : Node} (found : nodes.node? id = some node) :
    nodes.isCollection id ↔ ¬ ∃ tag text, node = .scalar tag text := by
  cases node with
  | scalar tag text => simp [(mean.of_scalar found).1]
  | list tag items =>
    obtain ⟨rfl, -⟩ := mean.means id _ found
    simp [isCollection, tag_of_node found, Node.tag]
  | mapping tag entries =>
    obtain ⟨rfl, -⟩ := mean.means id _ found
    simp [isCollection, tag_of_node found, Node.tag]

theorem Mean.exists_node (mean : nodes.Mean meaning) {parent : Node} (found : nodes.node? id = some parent) {child : NodeId}
    (member : child ∈ parent.children) : ∃ node, nodes.node? child = some node :=
  ⟨_, Array.getElem?_eq_getElem (mean.later id parent found child member).2⟩

theorem Mean.exists_key (mean : nodes.Mean meaning) {tag : Tag} {entries : NodeEntries} (found : nodes.node? id = some (.mapping tag entries))
    {entry : NodeId × NodeId} (member : entry ∈ entries) :
    ∃ key, nodes.node? entry.1 = some (.scalar .text key) ∧ (nodes.readAt entry.1).document = .text key := by
  obtain ⟨-, -, keys, -⟩ := mean.means id _ found
  obtain ⟨key, told⟩ := keys entry member
  refine ⟨key, told, ?_⟩
  rw [(mean.of_scalar told).2.2]
  exact (ok_inj.mp (mean.means entry.1 _ told)).symm

theorem Mean.withPlainKeys_eq (mean : nodes.Mean meaning) {tag : Tag} {entries : NodeEntries}
    (found : nodes.node? id = some (.mapping tag entries)) : nodes.withPlainKeys id = nodes := by
  have each : ∀ entry ∈ entries, nodes.withPlainKey entry.1 = nodes := by
    intro entry member
    obtain ⟨key, told, -⟩ := mean.exists_key found member
    rw [withPlainKey, told]
  rw [withPlainKeys, Nodes.entries, found]
  clear found
  induction entries with
  | nil => rfl
  | cons entry rest ih =>
    obtain ⟨first, later⟩ := List.forall_mem_cons.mp each
    rw [List.foldl_cons, first]
    exact ih later

theorem Mean.run_merged (mean : nodes.Mean meaning) {tag : Tag} {entries : NodeEntries}
    (found : nodes.node? id = some (.mapping tag entries)) (fuel : Nat) :
    (Merging.merged (fuel + 1) id).run nodes = .ok (entries, nodes) := by
  have listed : nodes.entries id = entries := by rw [Nodes.entries, found]
  have plain : ∀ entry ∈ entries, !nodes.isMergeKey entry.1 := by
    intro entry member
    obtain ⟨key, told, -⟩ := mean.exists_key found member
    rw [isMergeKey, tag_of_node told]
    rfl
  have none : (Merging.takeSource id).run nodes = .ok (none, nodes) := by
    simp only [Merging.takeSource, StateT.run_bind, StateT.run_get, pure_bind, listed, List.span_eq_takeWhile_dropWhile,
      List.dropWhile_eq_nil_iff.mpr plain]
    rfl
  rw [Merging.merged, StateT.run_bind, none]
  change Except.ok ((nodes.withPlainKeys id).entries id, nodes.withPlainKeys id) = _
  rw [mean.withPlainKeys_eq found, listed]

end Nodes

namespace Read

theorem put_of_new {key : Read} {value : Value} {entries : List (Read × Value)}
    (new : ∀ entry ∈ entries, entry.1.isSameKey key = false) : key.put value entries = entries ++ [(key, value)] := by
  induction entries with
  | nil => rfl
  | cons entry rest ih =>
    obtain ⟨first, later⟩ := List.forall_mem_cons.mp new
    rw [put, first, if_neg Bool.false_ne_true, ih later]
    rfl

theorem foldl_put {pairs : List (Read × Value)} (before : List (Read × Value))
    (distinct : (before ++ pairs).Pairwise fun earlier later => earlier.1.isSameKey later.1 = false) :
    pairs.foldl (fun entries pair => pair.1.put pair.2 entries) before = before ++ pairs := by
  induction pairs generalizing before with
  | nil => exact (List.append_nil before).symm
  | cons pair rest ih =>
    rw [List.append_cons] at distinct ⊢
    have new : ∀ entry ∈ before, entry.1.isSameKey pair.1 = false :=
      fun entry member => (List.pairwise_append.mp (List.pairwise_append.mp distinct).1).2.2 entry member pair (List.mem_singleton_self pair)
    rw [List.foldl_cons, put_of_new new]
    exact ih _ distinct

theorem isSameKey_of_texts {a b : Read} {key other : Text} (first : a.document = .text key) (second : b.document = .text other)
    (differ : key ≠ other) : a.isSameKey b = false := by
  rw [isSameKey, isNaN, first, second]
  simp [Document.sameKey, Document.keyInt?, differ]

end Read

namespace Valuing

open Nodes

variable {nodes : Nodes} {meaning : NodeId → Document} {id low : NodeId} {todo : List NodeId} {state next : Valuation}
  {α β γ : Type}

def Met (nodes : Nodes) (state : Valuation) (id : NodeId) : Prop := state.values[id]? = some (some (nodes.valueAt id))

def Filled (state : Valuation) (id : NodeId) : Prop := ∃ contents, state.contents[id]? = some (some contents)

-- What is known in the middle of a round: all that is told is right, and every collection
-- that was met is looked into, or has its turn in this round or the next one.
structure Knows (nodes : Nodes) (todo : List NodeId) (low : NodeId) (state : Valuation) : Prop where
  same : state.nodes = nodes
  values_size : state.values.size = nodes.size
  contents_size : state.contents.size = nodes.size
  values : ∀ id value, state.values[id]? = some (some value) → value = nodes.valueAt id
  contents : ∀ id contents, state.contents[id]? = some (some contents) → nodes.contentsAt id = some contents ∧
    ∀ child ∈ nodes.childrenOf id, Met nodes state child
  pending : ∀ id, Met nodes state id → nodes.isCollection id → id ∈ todo ∨ id ∈ state.waiting ∨ Filled state id
  waiting : ∀ id ∈ state.waiting, low ≤ id ∧ id < nodes.size ∧ nodes.isCollection id

-- Nothing that was met is forgotten, and no collection is looked into on the way.
structure Grows (nodes : Nodes) (before after : Valuation) : Prop where
  met : ∀ id, Met nodes before id → Met nodes after id
  contents : after.contents = before.contents

theorem Grows.refl (state : Valuation) : Grows nodes state state := ⟨fun _ => id, rfl⟩

theorem Grows.trans {first second third : Valuation} (one : Grows nodes first second) (two : Grows nodes second third) :
    Grows nodes first third := ⟨fun id met => two.met id (one.met id met), two.contents.trans one.contents⟩

def Finds (nodes : Nodes) (todo : List NodeId) (low : NodeId) (step : Valuing α) (result : α) (met : List NodeId) : Prop :=
  ∀ state, Knows nodes todo low state → ∃ next, step.run state = .ok (result, next) ∧ Knows nodes todo low next ∧
    Grows nodes state next ∧ ∀ id ∈ met, Met nodes next id

theorem finds_pure (result : α) : Finds nodes todo low (pure result) result [] :=
  fun state knows => ⟨state, rfl, knows, .refl state, nofun⟩

theorem Finds.bind {step : Valuing α} {following : α → Valuing β} {first : α} {second : β} {met later : List NodeId}
    (one : Finds nodes todo low step first met) (two : Finds nodes todo low (following first) second later) :
    Finds nodes todo low (step >>= following) second (met ++ later) := by
  intro state knows
  obtain ⟨middle, ran, known, grew, found⟩ := one state knows
  obtain ⟨next, goes, knownLater, grows, foundLater⟩ := two middle known
  refine ⟨next, ?_, knownLater, grew.trans grows, ?_⟩
  · rw [StateT.run_bind, ran]
    exact goes
  · intro id member
    rcases List.mem_append.mp member with early | late
    · exact grows.met id (found id early)
    · exact foundLater id late

theorem finds_mapM {step : γ → Valuing α} {result : γ → α} {met : γ → List NodeId} {items : List γ}
    (each : ∀ item ∈ items, Finds nodes todo low (step item) (result item) (met item)) :
    Finds nodes todo low (items.mapM step) (items.map result) (items.flatMap met) := by
  induction items with
  | nil => exact finds_pure []
  | cons item rest ih =>
    obtain ⟨first, later⟩ := List.forall_mem_cons.mp each
    rw [List.mapM_cons]
    have whole : Finds nodes todo low (step item >>= fun found => rest.mapM step >>= fun more => pure (found :: more)) _ _ :=
      first.bind ((ih later).bind (finds_pure (result item :: rest.map result)))
    rwa [List.append_nil] at whole

theorem knows_of_new (waiting : List NodeId) (knows : Knows nodes todo low state) (inside : id < nodes.size)
    (turns : ∀ other, other ∈ waiting ↔ other ∈ state.waiting ∨ nodes.isCollection id ∧ other = id)
    (above : nodes.isCollection id → low ≤ id) :
    let next : Valuation := { state with
      values := state.values.setIfInBounds id (some (nodes.valueAt id)), waiting := waiting }
    Knows nodes todo low next ∧ Grows nodes state next ∧ Met nodes next id := by
  intro next
  have here : Met nodes next id := by
    have bound : id < state.values.size := by rw [knows.values_size]; exact inside
    exact Array.getElem?_setIfInBounds_self_of_lt bound
  have other : ∀ {place : NodeId}, place ≠ id → next.values[place]? = state.values[place]? :=
    fun distinct => Array.getElem?_setIfInBounds_ne (Ne.symm distinct)
  have grows : ∀ place, Met nodes state place → Met nodes next place := by
    intro place met
    by_cases same : place = id
    · exact same ▸ here
    · exact (other same).trans met
  have back : ∀ place, Met nodes next place → place = id ∨ Met nodes state place := by
    intro place met
    by_cases same : place = id
    · exact .inl same
    · exact .inr ((other same).symm.trans met)
  refine ⟨⟨knows.same, ?_, knows.contents_size, ?_, ?_, ?_, ?_⟩, ⟨grows, rfl⟩, here⟩
  · rw [← knows.values_size]
    exact Array.size_setIfInBounds
  · intro place value found
    by_cases same : place = id
    · subst same
      exact (Option.some.inj (Option.some.inj (here.symm.trans found))).symm
    · exact knows.values place value ((other same).symm.trans found)
  · intro place contents found
    obtain ⟨right, children⟩ := knows.contents place contents found
    exact ⟨right, fun child member => grows child (children child member)⟩
  · intro place met collection
    rcases back place met with rfl | met
    · exact .inr (.inl ((turns place).mpr (.inr ⟨collection, rfl⟩)))
    · rcases knows.pending place met collection with now | waits | filled
      · exact .inl now
      · exact .inr (.inl ((turns place).mpr (.inl waits)))
      · exact .inr (.inr filled)
  · intro place member
    rcases (turns place).mp member with waits | ⟨collection, rfl⟩
    · exact knows.waiting place waits
    · exact ⟨above collection, inside, collection⟩

theorem run_value_of_known {value : Value} (known : state.values[id]? = some (some value)) :
    (Valuing.value id).run state = .ok (value, state) := by
  simp only [Valuing.value, StateT.run_bind, StateT.run_get, pure_bind, known]
  rfl

theorem run_value_of_collection (unknown : ∀ value, state.values[id]? ≠ some (some value)) (collection : state.nodes.isCollection id) :
    (Valuing.value id).run state = .ok (.collection id, { state with
      values := state.values.setIfInBounds id (some (.collection id)), waiting := id :: state.waiting }) := by
  simp only [Valuing.value, StateT.run_bind, StateT.run_get, pure_bind, collection, if_true]
  rfl

theorem run_value_of_scalar (read : Read) (unknown : ∀ value, state.values[id]? ≠ some (some value))
    (scalar : state.nodes.isCollection id = false) (reads : state.nodes.scalar id = .ok read) :
    (Valuing.value id).run state = .ok (.scalar read, { state with
      values := state.values.setIfInBounds id (some (.scalar read)) }) := by
  simp only [Valuing.value, StateT.run_bind, StateT.run_get, pure_bind, scalar, Bool.false_eq_true, if_false, reads]
  rfl

theorem finds_value (mean : nodes.Mean meaning) (inside : id < nodes.size) (above : nodes.isCollection id → low ≤ id) :
    Finds nodes todo low (value id) (nodes.valueAt id) [id] := by
  intro state knows
  by_cases known : ∃ value, state.values[id]? = some (some value)
  · obtain ⟨value, known⟩ := known
    cases knows.values id value known
    exact ⟨state, run_value_of_known known, knows, .refl state, List.forall_mem_singleton.mpr known⟩
  · have unknown : ∀ value, state.values[id]? ≠ some (some value) := fun value found => known ⟨value, found⟩
    cases collection : nodes.isCollection id with
    | true =>
      have worth : nodes.valueAt id = .collection id := by rw [valueAt, collection, if_pos rfl]
      have ran := run_value_of_collection unknown (knows.same ▸ collection)
      obtain ⟨known, grows, met⟩ := knows_of_new (id :: state.waiting) knows inside
        (by simp [collection, or_comm]) above
      rw [worth] at known grows met ⊢
      exact ⟨_, ran, known, grows, List.forall_mem_singleton.mpr met⟩
    | false =>
      obtain ⟨node, found⟩ : ∃ node, nodes.node? id = some node := ⟨_, Array.getElem?_eq_getElem inside⟩
      obtain ⟨tag, text, rfl⟩ : ∃ tag text, node = .scalar tag text := by
        by_contra other
        rw [(mean.isCollection_iff found).mpr other] at collection
        cases collection
      obtain ⟨-, reads, -⟩ := mean.of_scalar found
      have worth : nodes.valueAt id = .scalar (nodes.readAt id) := by rw [valueAt, collection, if_neg Bool.false_ne_true]
      have ran := run_value_of_scalar (nodes.readAt id) unknown (knows.same.symm ▸ collection) (knows.same.symm ▸ reads)
      obtain ⟨known, grows, met⟩ := knows_of_new state.waiting knows inside (by simp [collection]) above
      rw [worth] at known grows met ⊢
      exact ⟨_, ran, known, grows, List.forall_mem_singleton.mpr met⟩

theorem Finds.forget {step : Valuing α} {result : α} {met : List NodeId} (finds : Finds nodes todo low step result met) :
    Finds nodes todo low step result [] := by
  intro state knows
  obtain ⟨next, ran, known, grows, -⟩ := finds state knows
  exact ⟨next, ran, known, grows, nofun⟩

theorem finds_key (mean : nodes.Mean meaning) {tag : Tag} {text : Text} (found : nodes.node? id = some (.scalar tag text)) :
    Finds nodes todo low (Valuing.key id) (nodes.readAt id) [] := by
  have scalar := (mean.of_scalar found).1
  have inside : id < nodes.size := (Array.getElem?_eq_some_iff.mp found).1
  have worth : nodes.valueAt id = .scalar (nodes.readAt id) := by rw [valueAt, scalar, if_neg Bool.false_ne_true]
  have reads : Finds nodes todo low (value id) (nodes.valueAt id) [id] := finds_value mean inside (by simp [scalar])
  rw [worth] at reads
  exact (reads.forget.bind (finds_pure (nodes.readAt id)) : Finds nodes todo low (Valuing.key id) (nodes.readAt id) ([] ++ []))

theorem finds_merged (mean : nodes.Mean meaning) {tag : Tag} {entries : NodeEntries}
    (found : nodes.node? id = some (.mapping tag entries)) : Finds nodes todo low (Valuing.merged id) entries [] := by
  intro state knows
  refine ⟨state, ?_, knows, .refl state, nofun⟩
  have ran : (Merging.merged (state.merges + 1) id).run state.nodes = .ok (entries, state.nodes) := by
    rw [knows.same]
    exact mean.run_merged found state.merges
  unfold Valuing.merged
  rw [StateT.run_bind]
  change StateT.run ((liftM ((Merging.merged (state.merges + 1) id).run state.nodes) : Valuing (NodeEntries × Nodes)) >>=
    fun found => set { state with nodes := found.2 } >>= fun _ => pure found.1) state = _
  rw [ran]
  rfl

theorem finds_entries (mean : nodes.Mean meaning) {tag : Tag} {entries : NodeEntries}
    (found : nodes.node? id = some (.mapping tag entries)) (above : low ≤ id + 1) :
    Finds nodes todo low (Valuing.entries id) (entries.map fun entry => (nodes.readAt entry.1, nodes.valueAt entry.2))
      (entries.map Prod.snd) := by
  have each : ∀ entry ∈ entries, Finds nodes todo low
      (do
        let key ← Valuing.key entry.1
        let value ← Valuing.value entry.2
        pure (key, value)) (nodes.readAt entry.1, nodes.valueAt entry.2) [entry.2] := by
    intro entry member
    obtain ⟨key, told, -⟩ := mean.exists_key found member
    obtain ⟨after, inside⟩ := mean.later id _ found entry.2 (List.mem_map_of_mem member)
    have value : Finds nodes todo low (Valuing.value entry.2) _ _ := finds_value mean inside fun _ => Nat.le_trans above after
    exact (finds_key mean told).bind (value.bind (finds_pure (nodes.readAt entry.1, nodes.valueAt entry.2)))
  have distinct : (entries.map fun entry => (nodes.readAt entry.1, nodes.valueAt entry.2)).Pairwise
      fun earlier later => earlier.1.isSameKey later.1 = false := by
    obtain ⟨-, -, -, nodup⟩ := mean.means id _ found
    rw [List.pairwise_map]
    refine (List.pairwise_map.mp nodup).imp_of_mem ?_
    intro first second here there differ
    obtain ⟨key, told, text⟩ := mean.exists_key found here
    obtain ⟨other, toldOther, textOther⟩ := mean.exists_key found there
    refine Read.isSameKey_of_texts text textOther ?_
    rintro rfl
    rw [← (mean.of_scalar told).2.2, ← (mean.of_scalar toldOther).2.2, text, textOther] at differ
    exact differ rfl
  have put := Read.foldl_put [] distinct
  rw [List.nil_append] at put
  have whole : Finds nodes todo low (Valuing.entries id) _ ([] ++ (entries.flatMap (fun entry => [entry.2]) ++ [])) :=
    (finds_merged mean found).bind ((finds_mapM each).bind (finds_pure (List.foldl _ [] _)))
  rwa [put, List.nil_append, List.append_nil, ← List.map_eq_flatMap] at whole

theorem run_contents_list {items : List NodeId} (found : state.nodes.node? id = some (.list .list items)) :
    (Valuing.contents id).run state = (do return .list (← items.mapM value) : Valuing Contents).run state := by
  unfold Valuing.contents
  simp only [StateT.run_bind, StateT.run_get, pure_bind, tag_of_node found, found]
  rfl

theorem run_contents_mapping {pairs : NodeEntries} (found : state.nodes.node? id = some (.mapping .mapping pairs)) :
    (Valuing.contents id).run state = (do return .mapping (← entries id) : Valuing Contents).run state := by
  unfold Valuing.contents
  simp only [StateT.run_bind, StateT.run_get, pure_bind, tag_of_node found, found]
  rfl

theorem finds_contents (mean : nodes.Mean meaning) (collection : nodes.isCollection id) (above : low ≤ id + 1) :
    ∃ contents, nodes.contentsAt id = some contents ∧
      Finds nodes todo low (Valuing.contents id) contents (nodes.childrenOf id) := by
  cases found : nodes.node? id with
  | none =>
    rw [isCollection, Nodes.tag, found] at collection
    cases collection
  | some node =>
    cases node with
    | scalar tag text =>
      rw [(mean.of_scalar found).1] at collection
      cases collection
    | list tag items =>
      obtain ⟨rfl, -⟩ := mean.means id _ found
      refine ⟨.list (items.map nodes.valueAt), by rw [contentsAt, found], ?_⟩
      have each : ∀ item ∈ items, Finds nodes todo low (value item) (nodes.valueAt item) [item] := by
        intro item member
        obtain ⟨after, inside⟩ := mean.later id _ found item member
        exact finds_value mean inside fun _ => Nat.le_trans above after
      intro state knows
      have whole : Finds nodes todo low (items.mapM value >>= fun items => pure (Contents.list items)) _ (_ ++ []) :=
        (finds_mapM each).bind (finds_pure _)
      have parts := whole state knows
      rw [List.append_nil, List.flatMap_singleton'] at parts
      rw [childrenOf, found, run_contents_list (knows.same.symm ▸ found)]
      exact parts
    | mapping tag entries =>
      obtain ⟨rfl, -⟩ := mean.means id _ found
      refine ⟨.mapping (entries.map fun entry => (nodes.readAt entry.1, nodes.valueAt entry.2)), by rw [contentsAt, found], ?_⟩
      intro state knows
      have whole : Finds nodes todo low (Valuing.entries id >>= fun entries => pure (Contents.mapping entries)) _ (_ ++ []) :=
        (finds_entries mean found above).bind (finds_pure _)
      have parts := whole state knows
      rw [List.append_nil] at parts
      rw [childrenOf, found, run_contents_mapping (knows.same.symm ▸ found)]
      exact parts

theorem knows_of_filled {contents : Contents} (knows : Knows nodes (id :: todo) low state) (inside : id < nodes.size)
    (right : nodes.contentsAt id = some contents) (children : ∀ child ∈ nodes.childrenOf id, Met nodes state child) :
    Knows nodes todo low { state with contents := state.contents.setIfInBounds id (some contents) } := by
  have here : (state.contents.setIfInBounds id (some contents))[id]? = some (some contents) :=
    Array.getElem?_setIfInBounds_self_of_lt (by rw [knows.contents_size]; exact inside)
  have other : ∀ {place : NodeId}, place ≠ id → (state.contents.setIfInBounds id (some contents))[place]? = state.contents[place]? :=
    fun distinct => Array.getElem?_setIfInBounds_ne (Ne.symm distinct)
  refine ⟨knows.same, knows.values_size, ?_, knows.values, ?_, ?_, knows.waiting⟩
  · rw [← knows.contents_size]
    exact Array.size_setIfInBounds
  · intro place told found
    by_cases same : place = id
    · subst same
      cases here.symm.trans found
      exact ⟨right, children⟩
    · exact knows.contents place told ((other same).symm.trans found)
  · intro place met collection
    by_cases same : place = id
    · exact .inr (.inr ⟨contents, same ▸ here⟩)
    · rcases knows.pending place met collection with now | waits | ⟨told, filled⟩
      · exact .inl ((List.mem_cons.mp now).resolve_left same)
      · exact .inr (.inl waits)
      · exact .inr (.inr ⟨told, (other same).trans filled⟩)

theorem run_fill (mean : nodes.Mean meaning) (collection : nodes.isCollection id) (inside : id < nodes.size) (above : low ≤ id + 1)
    (knows : Knows nodes (id :: todo) low state) :
    ∃ next, (fill id).run state = .ok ((), next) ∧ Knows nodes todo low next ∧ ∀ id, Met nodes state id → Met nodes next id := by
  obtain ⟨contents, right, finds⟩ := finds_contents mean collection above
  obtain ⟨next, ran, known, grows, met⟩ := finds state knows
  refine ⟨_, ?_, knows_of_filled known inside right met, grows.met⟩
  unfold fill
  rw [StateT.run_bind, ran]
  rfl

theorem run_fills (mean : nodes.Mean meaning) (turns : ∀ id ∈ todo, nodes.isCollection id ∧ id < nodes.size ∧ low ≤ id + 1)
    (knows : Knows nodes todo low state) :
    ∃ next, (todo.forM fill).run state = .ok ((), next) ∧ Knows nodes [] low next ∧ ∀ id, Met nodes state id → Met nodes next id := by
  induction todo generalizing state with
  | nil => exact ⟨state, rfl, knows, fun _ => id⟩
  | cons id todo ih =>
    obtain ⟨first, later⟩ := List.forall_mem_cons.mp turns
    obtain ⟨middle, ran, known, grew⟩ := run_fill mean first.1 first.2.1 first.2.2 knows
    obtain ⟨next, goes, knowsLater, grows⟩ := ih later known
    refine ⟨next, ?_, knowsLater, fun id met => grows id (grew id met)⟩
    change (fill id >>= fun _ => todo.forM fill).run state = _
    rw [StateT.run_bind, ran]
    exact goes

-- A round meets later nodes only, so there are no more rounds than nodes.
theorem run_fillAll (low : NodeId) (mean : nodes.Mean meaning) (fuel : Nat) (enough : nodes.size < low + fuel) (knows : Knows nodes [] low state) :
    ∃ next low, (fillAll fuel).run state = .ok ((), next) ∧ Knows nodes [] low next ∧ next.waiting = [] ∧
      ∀ id, Met nodes state id → Met nodes next id := by
  induction fuel generalizing low state with
  | zero =>
    have none : state.waiting = [] := by
      apply List.eq_nil_iff_forall_not_mem.mpr
      intro id member
      obtain ⟨above, inside, -⟩ := knows.waiting id member
      exact absurd (Nat.lt_of_le_of_lt above inside) (Nat.not_lt.mpr (Nat.le_of_lt enough))
    exact ⟨state, low, rfl, knows, none, fun _ => id⟩
  | succ fuel ih =>
    cases round : state.waiting.reverse with
    | nil =>
      refine ⟨state, low, ?_, knows, List.reverse_eq_nil_iff.mp round, fun _ => id⟩
      simp only [fillAll, StateT.run_bind, StateT.run_get, pure_bind, round]
      rfl
    | cons first rest =>
      have cleared : Knows nodes (first :: rest) (low + 1) { state with waiting := [] } := by
        refine ⟨knows.same, knows.values_size, knows.contents_size, knows.values, knows.contents, ?_,
          fun _ member => absurd member List.not_mem_nil⟩
        intro id met collection
        rcases knows.pending id met collection with none | waits | filled
        · cases none
        · exact .inl (round ▸ List.mem_reverse.mpr waits)
        · exact .inr (.inr filled)
      have turns : ∀ id ∈ first :: rest, nodes.isCollection id ∧ id < nodes.size ∧ low + 1 ≤ id + 1 := by
        intro id member
        rw [← round] at member
        obtain ⟨above, inside, collection⟩ := knows.waiting id (List.mem_reverse.mp member)
        exact ⟨collection, inside, Nat.succ_le_succ above⟩
      obtain ⟨middle, ran, known, grew⟩ := run_fills mean turns cleared
      obtain ⟨next, low, goes, knowsLater, none, grows⟩ := ih (low + 1) (by omega) known
      refine ⟨next, low, ?_, knowsLater, none, fun id met => grows id (grew id met)⟩
      simp only [fillAll, StateT.run_bind, StateT.run_get, pure_bind, round]
      change ((first :: rest).forM fill >>= fun _ => fillAll fuel).run { state with waiting := [] } = _
      rw [StateT.run_bind, ran]
      exact goes

end Valuing

structure Nodes.Gathered (nodes : Nodes) (root : NodeId) (collections : Collections) : Prop where
  size : collections.size = nodes.size
  contents : ∀ id contents, collections[id]? = some (some contents) → nodes.contentsAt id = some contents
  children : ∀ id contents, collections[id]? = some (some contents) → ∀ child ∈ nodes.childrenOf id,
    nodes.isCollection child → ∃ parts, collections[child]? = some (some parts)
  root : nodes.isCollection root → ∃ parts, collections[root]? = some (some parts)

theorem Nodes.Mean.exists_value {nodes : Nodes} {meaning : NodeId → Document} {root : NodeId} (mean : nodes.Mean meaning)
    (inside : root < nodes.size) : ∃ collections, nodes.value root = .ok (nodes.valueAt root, collections) ∧ nodes.Gathered root collections := by
  let unknown : Valuation := ⟨nodes, nodes.mergeCount, Array.replicate nodes.size none, Array.replicate nodes.size none, []⟩
  have none {α : Type} {id : NodeId} {value : α} : (Array.replicate nodes.size (none : Option α))[id]? ≠ some (some value) := by
    intro found
    rw [Array.getElem?_replicate] at found
    split at found <;> cases found
  have started : Valuing.Knows nodes [] 0 unknown := {
    same := rfl
    values_size := Array.size_replicate
    contents_size := Array.size_replicate
    values := fun _ _ found => absurd found none
    contents := fun _ _ found => absurd found none
    pending := fun _ met => absurd met none
    waiting := nofun }
  obtain ⟨middle, ran, known, -, met⟩ := Valuing.finds_value mean inside (fun _ => Nat.zero_le root) unknown started
  obtain ⟨next, low, goes, knowsLater, settled, grows⟩ := Valuing.run_fillAll 0 mean (nodes.size + 1) (by omega) known
  have filled : ∀ id, Valuing.Met nodes next id → nodes.isCollection id → Valuing.Filled next id := by
    intro id met collection
    rcases knowsLater.pending id met collection with early | waits | filled
    · cases early
    · rw [settled] at waits
      cases waits
    · exact filled
  refine ⟨next.contents, ?_, knowsLater.contents_size, ?_, ?_, ?_⟩
  · unfold Nodes.value Valuing.root
    change Except.map _ (((Valuing.value root) >>= fun value => do
      Valuing.fillAll ((← get).nodes.size + 1)
      return value).run unknown) = _
    rw [StateT.run_bind, ran]
    change Except.map _ ((Valuing.fillAll (middle.nodes.size + 1) >>= fun _ => pure (nodes.valueAt root)).run middle) = _
    rw [known.same, StateT.run_bind, goes]
    rfl
  · exact fun id contents found => (knowsLater.contents id contents found).1
  · exact fun id contents found child member collection =>
      filled child ((knowsLater.contents id contents found).2 child member) collection
  · exact filled root (grows root (met root (List.mem_singleton_self root)))

end ChangeCapture.Yaml
