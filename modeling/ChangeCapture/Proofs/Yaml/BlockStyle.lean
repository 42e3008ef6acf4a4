import ChangeCapture.Proofs.Yaml.Printing
import ChangeCapture.Proofs.Yaml.Unfolding
import Mathlib.Data.List.Infix
import Mathlib.Data.List.Nodup

namespace ChangeCapture.Yaml

def Leaf.document (leaf : Leaf) : Document := (Scalar.ofTag leaf.tag leaf.content).toOption.getD .null

def Leaf.isLegible (leaf : Leaf) : Bool := (Scalar.ofTag leaf.tag leaf.content).toOption.isSome

theorem Leaf.ofTag_of_isLegible {leaf : Leaf} (legible : leaf.isLegible) : Scalar.ofTag leaf.tag leaf.content = .ok leaf.document := by
  obtain ⟨document, told⟩ := eq_ok_of_isSome legible
  rw [Leaf.document, told]
  rfl

namespace Tree

mutual
def document : Tree → Document
  | .scalar leaf => leaf.document
  | .list items => .list (itemDocuments items)
  | .mapping entries => .mapping (entryDocuments entries)

def itemDocuments : List Tree → List Document
  | [] => []
  | item :: rest => document item :: itemDocuments rest

def entryDocuments : List (Text × Tree) → List (Document × Document)
  | [] => []
  | (key, value) :: rest => (.text key, document value) :: entryDocuments rest
end

mutual
def meanings : Tree → List Document
  | .scalar leaf => [leaf.document]
  | .list items => .list (itemDocuments items) :: itemMeanings items
  | .mapping entries => .mapping (entryDocuments entries) :: entryMeanings entries

def itemMeanings : List Tree → List Document
  | [] => []
  | item :: rest => meanings item ++ itemMeanings rest

def entryMeanings : List (Text × Tree) → List Document
  | [] => []
  | (key, value) :: rest => .text key :: (meanings value ++ entryMeanings rest)
end

mutual
-- Every leaf has a value, and the keys of a mapping are different words of no other type.
def isLegible : Tree → Bool
  | .scalar leaf => leaf.isLegible
  | .list items => areItemsLegible items
  | .mapping entries => decide (entries.map Prod.fst).Nodup && areEntriesLegible entries

def areItemsLegible : List Tree → Bool
  | [] => true
  | item :: rest => isLegible item && areItemsLegible rest

def areEntriesLegible : List (Text × Tree) → Bool
  | [] => true
  | (key, value) :: rest => decide (Tag.ofPlain key = .text) && isLegible value && areEntriesLegible rest
end

theorem size_pos (tree : Tree) : 0 < tree.size := by
  cases tree with
  | scalar leaf => exact Nat.one_pos
  | list items => exact Nat.succ_pos _
  | mapping entries => exact Nat.succ_pos _

mutual
theorem length_meanings (tree : Tree) : tree.meanings.length = tree.size := by
  cases tree with
  | scalar leaf => rfl
  | list items => rw [meanings, List.length_cons, length_itemMeanings, size]
  | mapping entries => rw [meanings, List.length_cons, length_entryMeanings, size]

theorem length_itemMeanings (items : List Tree) : (itemMeanings items).length = itemSize items := by
  cases items with
  | nil => rfl
  | cons item rest => rw [itemMeanings, List.length_append, length_meanings, length_itemMeanings, itemSize]

theorem length_entryMeanings (entries : List (Text × Tree)) : (entryMeanings entries).length = entrySize entries := by
  cases entries with
  | nil => rfl
  | cons entry rest =>
    obtain ⟨key, value⟩ := entry
    rw [entryMeanings, List.length_cons, List.length_append, length_meanings, length_entryMeanings, entrySize, Nat.add_right_comm]
end

theorem exists_meanings (tree : Tree) : ∃ later, tree.meanings = tree.document :: later := by
  cases tree with
  | scalar leaf => exact ⟨_, rfl⟩
  | list items => exact ⟨_, rfl⟩
  | mapping entries => exact ⟨_, rfl⟩

section parts

variable {α : Type} {all part later : List α} {start : Nat}

def Stands (part all : List α) (start : Nat) : Prop := part <+: all.drop start

theorem stands_self (all : List α) : Stands all all 0 := List.prefix_refl all

theorem Stands.head {first : α} (stands : Stands (first :: later) all start) : all[start]? = some first := by
  obtain ⟨after, same⟩ := stands
  rw [← List.head?_drop, ← same]
  rfl

theorem Stands.left (stands : Stands (part ++ later) all start) : Stands part all start :=
  (List.prefix_append part later).trans stands

theorem Stands.right (stands : Stands (part ++ later) all start) : Stands later all (start + part.length) := by
  have dropped := List.IsPrefix.drop stands part.length
  rwa [List.drop_left, List.drop_drop] at dropped

theorem Stands.tail {first : α} (stands : Stands (first :: later) all start) : Stands later all (start + 1) :=
  @Stands.right α all [first] later start stands

end parts

variable {all : List Node} {told : List Document} {start : Nat}

def meaning (told : List Document) (id : Nat) : Document := told[id]?.getD .null

theorem meaning_of_stands {first : Document} {later : List Document} (stands : Stands (first :: later) told start) : meaning told start = first := by
  rw [meaning, stands.head]
  rfl

theorem meaning_of_tree {tree : Tree} (stands : Stands tree.meanings told start) : meaning told start = tree.document := by
  obtain ⟨later, same⟩ := exists_meanings tree
  rw [same] at stands
  exact meaning_of_stands stands

theorem map_itemPlaces (items : List Tree) (stands : Stands (itemMeanings items) told start) :
    (itemPlaces start items).map (meaning told) = itemDocuments items := by
  induction items generalizing start with
  | nil => rfl
  | cons item rest ih =>
    have later := stands.right
    rw [length_meanings] at later
    rw [itemPlaces, List.map_cons, meaning_of_tree stands.left, ih later, itemDocuments]

theorem map_entryPlaces (entries : List (Text × Tree)) (stands : Stands (entryMeanings entries) told start) :
    (entryPlaces start entries).map (fun entry => (meaning told entry.1, meaning told entry.2)) = entryDocuments entries := by
  induction entries generalizing start with
  | nil => rfl
  | cons entry rest ih =>
    obtain ⟨key, value⟩ := entry
    rw [entryMeanings] at stands
    have later := stands.tail.right
    rw [length_meanings, Nat.add_assoc, Nat.add_comm 1] at later
    rw [entryPlaces, List.map_cons, meaning_of_stands stands, meaning_of_tree stands.tail.left, ih later, entryDocuments]

theorem within_itemPlaces (items : List Tree) {place : Nat} (member : place ∈ itemPlaces start items) :
    start ≤ place ∧ place < start + itemSize items := by
  induction items generalizing start with
  | nil => cases member
  | cons item rest ih =>
    have some := item.size_pos
    rw [itemSize]
    rcases List.mem_cons.mp member with rfl | later
    · omega
    · have within := ih later
      omega

theorem within_entryPlaces (entries : List (Text × Tree)) {entry : Nat × Nat} (member : entry ∈ entryPlaces start entries) :
    start ≤ entry.2 ∧ entry.2 < start + entrySize entries := by
  induction entries generalizing start with
  | nil => cases member
  | cons first rest ih =>
    obtain ⟨key, value⟩ := first
    have some := value.size_pos
    rw [entrySize]
    rcases List.mem_cons.mp member with rfl | later
    · dsimp only
      omega
    · have within := ih later
      omega

theorem keys_entryPlaces (entries : List (Text × Tree)) (legible : areEntriesLegible entries)
    (stands : Stands (entryNodes start entries) all start) {entry : Nat × Nat} (member : entry ∈ entryPlaces start entries) :
    ∃ key, all[entry.1]? = some (.scalar .text key) := by
  induction entries generalizing start with
  | nil => cases member
  | cons first rest ih =>
    obtain ⟨key, value⟩ := first
    simp only [areEntriesLegible, Bool.and_eq_true, decide_eq_true_eq, and_assoc] at legible
    rw [entryNodes] at stands
    rcases List.mem_cons.mp member with rfl | later
    · refine ⟨key, ?_⟩
      rw [stands.head, Leaf.node, Leaf.tag, legible.1]
      rfl
    · have next := stands.tail.right
      rw [length_nodes, Nat.add_assoc, Nat.add_comm 1] at next
      exact ih legible.2.2 next later

theorem map_keys_entryPlaces (entries : List (Text × Tree)) (stands : Stands (entryMeanings entries) told start) :
    (entryPlaces start entries).map (fun entry => meaning told entry.1) = entries.map fun entry => .text entry.1 := by
  have both := congrArg (List.map Prod.fst) (map_entryPlaces entries stands)
  rw [List.map_map] at both
  refine both.trans ?_
  clear both stands
  induction entries with
  | nil => rfl
  | cons first rest ih =>
    obtain ⟨key, value⟩ := first
    rw [entryDocuments, List.map_cons, ih, List.map_cons]

-- What is to be shown of a node.
def Sound (all : List Node) (told : List Document) (id : Nat) : Prop :=
  ∀ node, all[id]? = some node → node.Means all.toArray (meaning told) id ∧ ∀ child : Nat, child ∈ node.children → id < child ∧ child < all.length

theorem length_le_of_stands {α : Type} {all part : List α} {start : Nat} (stands : Stands part all start) (some : part ≠ []) :
    start + part.length ≤ all.length := by
  have fits := List.IsPrefix.length_le stands
  have positive := List.length_pos_iff.mpr some
  rw [List.length_drop] at fits
  omega

theorem sound_of_head {first : Node} {later : List Node} (stands : Stands (first :: later) all start)
    (means : first.Means all.toArray (meaning told) start) (within : ∀ child : Nat, child ∈ first.children → start < child ∧ child < all.length) :
    Sound all told start := by
  intro node found
  rw [stands.head] at found
  cases found
  exact ⟨means, within⟩

theorem sound_list {items : List Tree} (stands : Stands ((Tree.list items).nodes start) all start)
    (means : Stands (Tree.list items).meanings told start) : Sound all told start := by
  rw [nodes] at stands
  rw [meanings] at means
  apply sound_of_head stands
  · exact ⟨rfl, by rw [meaning_of_stands means, map_itemPlaces items means.tail]⟩
  · intro child member
    have within := within_itemPlaces items member
    have fits := length_le_of_stands stands (List.cons_ne_nil _ _)
    rw [List.length_cons, length_itemNodes] at fits
    omega

theorem sound_mapping {entries : List (Text × Tree)} (legible : (Tree.mapping entries).isLegible)
    (stands : Stands ((Tree.mapping entries).nodes start) all start) (means : Stands (Tree.mapping entries).meanings told start) :
    Sound all told start := by
  simp only [isLegible, Bool.and_eq_true, decide_eq_true_eq] at legible
  rw [nodes] at stands
  rw [meanings] at means
  apply sound_of_head stands
  · refine ⟨rfl, ?_, ?_, ?_⟩
    · rw [meaning_of_stands means, map_entryPlaces entries means.tail]
    · intro entry member
      obtain ⟨key, found⟩ := keys_entryPlaces entries legible.2 stands.tail member
      refine ⟨key, ?_⟩
      rw [Nodes.node?, List.getElem?_toArray]
      exact found
    · rw [map_keys_entryPlaces entries means.tail]
      have apart := List.Nodup.map (f := Document.text) (fun _ _ => Document.text.inj) legible.1
      rwa [List.map_map] at apart
  · intro child member
    obtain ⟨entry, listed, rfl⟩ := List.mem_map.mp member
    have within := within_entryPlaces entries listed
    have fits := length_le_of_stands stands (List.cons_ne_nil _ _)
    rw [List.length_cons, length_entryNodes] at fits
    omega

mutual
theorem sound_nodes {start id : Nat} (tree : Tree) (legible : tree.isLegible) (stands : Stands (tree.nodes start) all start)
    (means : Stands tree.meanings told start) (after : start ≤ id) (inside : id < start + tree.size) : Sound all told id := by
  cases tree with
  | scalar leaf =>
    rw [size] at inside
    rw [isLegible] at legible
    rw [nodes] at stands
    rw [meanings] at means
    obtain rfl : id = start := by omega
    apply sound_of_head stands
    · rw [Node.Means.eq_def]
      change Scalar.ofTag _ _ = .ok (meaning told id)
      rw [meaning_of_stands means]
      exact Leaf.ofTag_of_isLegible legible
    · exact nofun
  | list items =>
    by_cases first : id = start
    · rw [first]
      exact sound_list stands means
    · rw [size] at inside
      rw [isLegible] at legible
      rw [nodes] at stands
      rw [meanings] at means
      exact sound_itemNodes items legible stands.tail means.tail (by omega) (by omega)
  | mapping entries =>
    by_cases first : id = start
    · rw [first]
      exact sound_mapping legible stands means
    · rw [size] at inside
      simp only [isLegible, Bool.and_eq_true, decide_eq_true_eq] at legible
      rw [nodes] at stands
      rw [meanings] at means
      exact sound_entryNodes entries legible.2 stands.tail means.tail (by omega) (by omega)

theorem sound_itemNodes {start id : Nat} (items : List Tree) (legible : areItemsLegible items) (stands : Stands (itemNodes start items) all start)
    (means : Stands (itemMeanings items) told start) (after : start ≤ id) (inside : id < start + itemSize items) : Sound all told id := by
  cases items with
  | nil =>
    rw [itemSize] at inside
    omega
  | cons item rest =>
    rw [itemSize] at inside
    simp only [areItemsLegible, Bool.and_eq_true] at legible
    rw [itemNodes] at stands
    rw [itemMeanings] at means
    by_cases early : id < start + item.size
    · exact sound_nodes item legible.1 stands.left means.left after early
    · have later := stands.right
      have meansLater := means.right
      rw [length_nodes] at later
      rw [length_meanings] at meansLater
      exact sound_itemNodes rest legible.2 later meansLater (by omega) (by omega)

theorem sound_entryNodes {start id : Nat} (entries : List (Text × Tree)) (legible : areEntriesLegible entries)
    (stands : Stands (entryNodes start entries) all start) (means : Stands (entryMeanings entries) told start) (after : start ≤ id)
    (inside : id < start + entrySize entries) : Sound all told id := by
  cases entries with
  | nil =>
    rw [entrySize] at inside
    omega
  | cons entry rest =>
    obtain ⟨key, value⟩ := entry
    rw [entrySize] at inside
    simp only [areEntriesLegible, Bool.and_eq_true, decide_eq_true_eq, and_assoc] at legible
    rw [entryNodes] at stands
    rw [entryMeanings] at means
    by_cases first : id = start
    · subst first
      apply sound_of_head stands
      · rw [Leaf.node, Leaf.tag, legible.1]
        change Scalar.ofTag .text key = .ok (meaning told id)
        rw [meaning_of_stands means]
        rfl
      · exact nofun
    · by_cases early : id < start + (value.size + 1)
      · exact sound_nodes value legible.2.1 stands.tail.left means.tail.left (by omega) (by omega)
      · have later := stands.tail.right
        have meansLater := means.tail.right
        rw [length_nodes, Nat.add_assoc, Nat.add_comm 1] at later
        rw [length_meanings, Nat.add_assoc, Nat.add_comm 1] at meansLater
        exact sound_entryNodes rest legible.2.2 later meansLater (by omega) (by omega)
end

theorem mean_of_legible {tree : Tree} (legible : tree.isLegible) : Nodes.Mean (tree.nodes 0).toArray (meaning tree.meanings) := by
  have sound : ∀ id node, Nodes.node? (tree.nodes 0).toArray id = some node → node.Means (tree.nodes 0).toArray (meaning tree.meanings) id ∧
      ∀ child ∈ node.children, id < child ∧ child < (tree.nodes 0).length := by
    intro id node found
    rw [Nodes.node?, List.getElem?_toArray] at found
    have inside : id < 0 + tree.size := by
      rw [Nat.zero_add, ← length_nodes 0 tree]
      exact (List.getElem?_eq_some_iff.mp found).1
    exact sound_nodes tree legible (stands_self _) (stands_self _) (Nat.zero_le id) inside node found
  exact ⟨fun id node found => (sound id node found).1, fun id node found => (sound id node found).2⟩

end Tree

-- A document in block style is read as the tree that its lines show.
theorem read_layout {lines : List Line} {tree : Tree} (fits : Layout.Fits lines) (shown : lines.filter Layout.isFilled = tree.lines 0 0)
    (writable : tree.isWritable) (legible : tree.isLegible) : read (Layout.text lines) = .ok tree.document := by
  have composed := Nodes.ofTokens_tree tree
  rw [← Layout.tokens_of_filled writable shown, ← Token.ofText_layout fits] at composed
  have inside : 0 < (tree.nodes 0).toArray.size := by
    rw [List.size_toArray, Tree.length_nodes]
    exact tree.size_pos
  rw [read_of_mean (Tree.mean_of_legible legible) inside composed, Tree.meaning_of_tree (Tree.stands_self _)]

end ChangeCapture.Yaml
