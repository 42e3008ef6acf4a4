import ChangeCapture.Proofs.Yaml.Meaning

namespace ChangeCapture.Yaml

-- What nodes mean is what is read of them. The collections lead to later ones only, so a
-- single pass from the last one on knows them all.

theorem mapM_of_some {α β : Type} {step : α → Option β} {result : α → β} {items : List α}
    (each : ∀ item ∈ items, step item = some (result item)) : items.mapM step = some (items.map result) := by
  induction items with
  | nil => rfl
  | cons item rest ih =>
    obtain ⟨first, later⟩ := List.forall_mem_cons.mp each
    rw [List.mapM_cons, first, ih later]
    rfl

namespace Documents

variable {nodes : Nodes} {meaning : NodeId → Document} {root id low : NodeId} {collections : Collections} {documents : Documents}

theorem document?_of_node {known? : NodeId → Option Document} {node : Node} (mean : nodes.Mean meaning) (found : nodes.node? id = some node)
    (known : nodes.isCollection id → known? id = some (meaning id)) : (nodes.valueAt id).document? known? = some (meaning id) := by
  rw [Nodes.valueAt]
  cases collection : nodes.isCollection id with
  | true => exact known collection
  | false =>
    obtain ⟨tag, text, rfl⟩ : ∃ tag text, node = .scalar tag text := by
      by_contra other
      rw [(mean.isCollection_iff found).mpr other] at collection
      cases collection
    exact congrArg some (mean.of_scalar found).2.2

theorem document?_of_contents {known? : NodeId → Option Document} {contents : Contents} (mean : nodes.Mean meaning) (right : nodes.contentsAt id = some contents)
    (known : ∀ child ∈ nodes.childrenOf id, nodes.isCollection child → known? child = some (meaning child)) :
    contents.document? known? = some (meaning id) := by
  cases found : nodes.node? id with
  | none =>
    rw [Nodes.contentsAt, found] at right
    cases right
  | some node =>
    have part : ∀ child ∈ node.children, (nodes.valueAt child).document? known? = some (meaning child) := by
      intro child member
      obtain ⟨other, there⟩ := mean.exists_node found member
      refine document?_of_node mean there (known child ?_)
      rw [Nodes.childrenOf, found]
      exact member
    rw [Nodes.contentsAt, found] at right
    cases node with
    | scalar tag text => cases right
    | list tag items =>
      cases right
      obtain ⟨-, means⟩ := mean.means id _ found
      have whole : items.mapM (Value.document? known? ∘ nodes.valueAt) = some (items.map meaning) := mapM_of_some part
      rw [means, Contents.document?, List.mapM_map, whole]
      rfl
    | mapping tag entries =>
      cases right
      obtain ⟨-, means, -⟩ := mean.means id _ found
      have each : ∀ entry ∈ entries, (Contents.pair? known? ∘ fun entry => (nodes.readAt entry.1, nodes.valueAt entry.2)) entry =
          some (meaning entry.1, meaning entry.2) := by
        intro entry member
        obtain ⟨key, told, -⟩ := mean.exists_key found member
        rw [Function.comp_apply, Contents.pair?, part entry.2 (List.mem_map_of_mem member), (mean.of_scalar told).2.2]
        rfl
      rw [means, Contents.document?, List.mapM_map, mapM_of_some each]
      rfl

-- Documents that are known are right, and those of the later collections are known.
structure Right (meaning : NodeId → Document) (collections : Collections) (low : NodeId) (documents : Documents) : Prop where
  size : documents.size = collections.size
  right : ∀ id document, documents.known? id = some document → document = meaning id
  known : ∀ id parts, low ≤ id → collections[id]? = some (some parts) → documents.known? id = some (meaning id)

theorem inside_of_parts {parts : Contents} (found : collections[id]? = some (some parts)) : id < collections.size :=
  (Array.getElem?_eq_some_iff.mp found).1

theorem known?_setIfInBounds_self {document : Option Document} (inside : id < documents.size) :
    known? (documents.setIfInBounds id document) id = document := by
  rw [Documents.known?, Array.getElem?_setIfInBounds_self_of_lt inside]
  rfl

theorem known?_setIfInBounds_ne {document : Option Document} {other : NodeId} (distinct : other ≠ id) :
    known? (documents.setIfInBounds id document) other = documents.known? other := by
  rw [Documents.known?, Array.getElem?_setIfInBounds_ne (Ne.symm distinct)]
  rfl

theorem document?_of_right {parts : Contents} (mean : nodes.Mean meaning) (gathered : nodes.Gathered root collections)
    (right : Right meaning collections (id + 1) documents) (found : collections[id]? = some (some parts)) :
    parts.document? documents.known? = some (meaning id) := by
  apply document?_of_contents mean (gathered.contents id parts found)
  intro child member collection
  obtain ⟨others, there⟩ := gathered.children id parts found child member collection
  refine right.known child others ?_ there
  cases told : nodes.node? id with
  | none =>
    rw [Nodes.childrenOf, told] at member
    cases member
  | some node =>
    rw [Nodes.childrenOf, told] at member
    exact (mean.later id node told child member).1

theorem right_settleOne (mean : nodes.Mean meaning) (gathered : nodes.Gathered root collections)
    (before : Right meaning collections (id + 1) documents) : Right meaning collections id (collections.settleOne documents id) := by
  have later : ∀ place, id ≤ place → place ≠ id → id + 1 ≤ place :=
    fun place above other => Nat.lt_of_le_of_ne above (Ne.symm other)
  cases known : documents.known? id with
  | some document =>
    have same : collections.settleOne documents id = documents := by rw [Collections.settleOne, known]
    rw [same]
    refine ⟨before.size, before.right, fun place parts above found => ?_⟩
    by_cases here : place = id
    · rw [here, known, before.right id document known]
    · exact before.known place parts (later place above here) found
  | none =>
    cases found : (collections[id]?).join with
    | none =>
      have same : collections.settleOne documents id = documents := by rw [Collections.settleOne, known, found]
      rw [same]
      refine ⟨before.size, before.right, fun place parts above there => ?_⟩
      by_cases here : place = id
      · rw [← here, there] at found
        cases found
      · exact before.known place parts (later place above here) there
    | some parts =>
      have there := Option.join_eq_some_iff.mp found
      have told := document?_of_right mean gathered before there
      have inside : id < documents.size := before.size.symm ▸ inside_of_parts there
      have same : collections.settleOne documents id = documents.setIfInBounds id (some (meaning id)) := by
        rw [Collections.settleOne, known, found, ← told]
      rw [same]
      refine ⟨Array.size_setIfInBounds.trans before.size, fun place document => ?_, fun place parts above listed => ?_⟩
      · by_cases here : place = id
        · subst here
          rw [known?_setIfInBounds_self inside]
          exact fun same => (Option.some.inj same).symm
        · rw [known?_setIfInBounds_ne here]
          exact before.right place document
      · by_cases here : place = id
        · subst here
          exact known?_setIfInBounds_self inside
        · rw [known?_setIfInBounds_ne here]
          exact before.known place parts (later place above here) listed

theorem right_foldl (mean : nodes.Mean meaning) (gathered : nodes.Gathered root collections) (count : Nat)
    (before : Right meaning collections count documents) :
    Right meaning collections 0 ((List.range count).reverse.foldl collections.settleOne documents) := by
  induction count generalizing documents with
  | zero => exact before
  | succ count ih =>
    rw [List.range_succ, List.reverse_append, List.reverse_singleton, List.singleton_append, List.foldl_cons]
    exact ih (right_settleOne mean gathered before)

theorem right_settleAll (mean : nodes.Mean meaning) (gathered : nodes.Gathered root collections)
    (before : Right meaning collections low documents) : Right meaning collections 0 (collections.settleAll documents) := by
  apply right_foldl mean gathered
  exact ⟨before.size, before.right, fun place parts above found => absurd (inside_of_parts found) (Nat.not_lt.mpr above)⟩

theorem right_settled (mean : nodes.Mean meaning) (gathered : nodes.Gathered root collections) (fuel : Nat)
    (before : Right meaning collections 0 documents) : Right meaning collections 0 (collections.settled fuel documents) := by
  induction fuel generalizing documents with
  | zero => exact before
  | succ fuel ih =>
    rw [Collections.settled]
    split
    · exact before
    · exact ih (right_settleAll mean gathered before)

-- At first nothing is known. A pass that finds nothing had nothing to find.
theorem right_of_unknown (mean : nodes.Mean meaning) (gathered : nodes.Gathered root collections) (fuel : Nat) :
    Right meaning collections 0 (collections.settled (fuel + 1) (collections.map fun _ => none)) := by
  have unknown : ∀ id, known? (collections.map fun _ => none) id = none := by
    intro id
    rw [Documents.known?, Array.getElem?_map]
    cases collections[id]? <;> rfl
  have before : Right meaning collections collections.size (collections.map fun _ => none) := by
    refine ⟨Array.size_map, fun id document found => ?_, fun place parts above found => ?_⟩
    · rw [unknown] at found
      cases found
    · exact absurd (inside_of_parts found) (Nat.not_lt.mpr above)
  have after := right_settleAll mean gathered before
  rw [Collections.settled]
  split
  · rename_i same
    have none : Documents.count (collections.map fun _ => none) = 0 := by
      rw [Documents.count, Array.countP_map]
      exact Array.countP_eq_zero.mpr (by simp)
    rw [none, Documents.count, Array.countP_eq_zero] at same
    refine ⟨before.size, before.right, fun place parts above found => ?_⟩
    have told := after.known place parts above found
    have member := Array.mem_of_getElem? (Option.join_eq_some_iff.mp told)
    exact absurd rfl (same _ member)
  · exact right_settled mean gathered fuel after

theorem known?_unfolded {document : Document} (settled : Documents) (same : settled.size = collections.size) (level : Nat)
    (known : settled.known? id = some document) : known? (collections.unfolded settled level) id = some document := by
  have there : settled[id]? = some (some document) := Option.join_eq_some_iff.mp known
  have inside : id < collections.size := same ▸ (Array.getElem?_eq_some_iff.mp there).1
  have zipped : (settled.zip collections)[id]? = some (some document, collections[id]) := by
    rw [Array.getElem?_zip_eq_some]
    exact ⟨there, Array.getElem?_eq_getElem inside⟩
  cases level with
  | zero =>
    rw [Collections.unfolded, Documents.known?, Array.getElem?_map, zipped]
    rfl
  | succ level =>
    rw [Collections.unfolded, Documents.known?, Array.getElem?_map, zipped]
    rfl

end Documents

theorem read_of_mean {text : Text} {nodes : Nodes} {meaning : NodeId → Document} {root : NodeId} (mean : nodes.Mean meaning)
    (inside : root < nodes.size) (composed : Nodes.ofTokens (Token.ofText text) = .ok (some root, nodes)) :
    read text = .ok (meaning root) := by
  obtain ⟨collections, worth, gathered⟩ := mean.exists_value inside
  have right := Documents.right_of_unknown mean gathered collections.size
  have told : (nodes.valueAt root).document? (Collections.documents collections).known? = some (meaning root) := by
    apply Documents.document?_of_node mean (Array.getElem?_eq_getElem inside)
    intro collection
    obtain ⟨parts, found⟩ := gathered.root collection
    exact Documents.known?_unfolded _ right.size _ (right.known root parts (Nat.zero_le root) found)
  unfold read
  rw [composed]
  change (nodes.value root >>= fun found => Except.ok
    ((found.1.document? (Collections.documents found.2).known?).getD .null)) = _
  rw [worth]
  change Except.ok (Option.getD _ _) = _
  rw [told]
  rfl

end ChangeCapture.Yaml
