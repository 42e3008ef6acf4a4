import ChangeCapture.Proofs.Yaml.Line
import ChangeCapture.Yaml.Node

namespace ChangeCapture.Yaml

-- What a document in block style says, apart from its lines.
inductive Tree where
  | scalar (leaf : Leaf)
  | list (items : List Tree)
  | mapping (entries : List (Text × Tree))

namespace Leaf

def content : Leaf → Text
  | .plain word => word
  | .quoted text => text

def tag : Leaf → Tag
  | .plain word => .ofPlain word
  | .quoted _ => .text

def node (leaf : Leaf) : Node := .scalar leaf.tag leaf.content

end Leaf

namespace Tree

mutual
def tokens : Tree → List Token
  | .scalar leaf => [leaf.token]
  | .list items => .blockSequence :: itemTokens items
  | .mapping entries => .blockMapping :: entryTokens entries

def itemTokens : List Tree → List Token
  | [] => [.blockEnd]
  | item :: rest => .blockEntry :: (tokens item ++ itemTokens rest)

def entryTokens : List (Text × Tree) → List Token
  | [] => [.blockEnd]
  | (key, value) :: rest => .key :: .scalar true key :: .value :: (tokens value ++ entryTokens rest)
end

mutual
def size : Tree → Nat
  | .scalar _ => 1
  | .list items => itemSize items + 1
  | .mapping entries => entrySize entries + 1

def itemSize : List Tree → Nat
  | [] => 0
  | item :: rest => size item + itemSize rest

def entrySize : List (Text × Tree) → Nat
  | [] => 0
  | (_, value) :: rest => size value + 1 + entrySize rest
end

def itemPlaces (start : NodeId) : List Tree → List NodeId
  | [] => []
  | item :: rest => start :: itemPlaces (start + item.size) rest

def entryPlaces (start : NodeId) : List (Text × Tree) → List (NodeId × NodeId)
  | [] => []
  | (_, value) :: rest => (start, start + 1) :: entryPlaces (start + (value.size + 1)) rest

mutual
def nodes (start : NodeId) : Tree → List Node
  | .scalar leaf => [leaf.node]
  | .list items => .list .list (itemPlaces (start + 1) items) :: itemNodes (start + 1) items
  | .mapping entries => .mapping .mapping (entryPlaces (start + 1) entries) :: entryNodes (start + 1) entries

def itemNodes (start : NodeId) : List Tree → List Node
  | [] => []
  | item :: rest => nodes start item ++ itemNodes (start + item.size) rest

def entryNodes (start : NodeId) : List (Text × Tree) → List Node
  | [] => []
  | (key, value) :: rest =>
    (Leaf.plain key).node :: (nodes (start + 1) value ++ entryNodes (start + (value.size + 1)) rest)
end

mutual
theorem length_nodes (start : NodeId) (tree : Tree) : (tree.nodes start).length = tree.size := by
  cases tree with
  | scalar leaf => rfl
  | list items => rw [nodes, List.length_cons, length_itemNodes, size]
  | mapping entries => rw [nodes, List.length_cons, length_entryNodes, size]

theorem length_itemNodes (start : NodeId) (items : List Tree) : (itemNodes start items).length = itemSize items := by
  cases items with
  | nil => rfl
  | cons item rest => rw [itemNodes, List.length_append, length_nodes, length_itemNodes, itemSize]

theorem length_entryNodes (start : NodeId) (entries : List (Text × Tree)) :
    (entryNodes start entries).length = entrySize entries := by
  cases entries with
  | nil => rfl
  | cons entry rest =>
    obtain ⟨key, value⟩ := entry
    rw [entryNodes, List.length_cons, List.length_append, length_nodes, length_entryNodes, entrySize, Nat.add_right_comm]
end

end Tree

namespace Node

open Yaml.Tree

variable {rest : List Token} {anchors : List (Text × NodeId)} {handles : List (Text × Text)} {fuel : Nat}

-- A reader that has made some nodes and has some tokens before it.
def reader (anchors : List (Text × NodeId)) (handles : List (Text × Text)) (made : List Node) (tokens : List Token) : State :=
  ⟨tokens, made.toArray, anchors, handles⟩

theorem named_reader (made : List Node) (node : Node) :
    (named none node).run (reader anchors handles made rest) = .ok (made.length, reader anchors handles (made ++ [node]) rest) := by
  change Except.ok (made.length, State.mk rest (made.toArray.push node) anchors handles) = _
  rw [List.push_toArray]
  rfl

theorem filled_reader {α : Type} {collection : List α → Node} {parts : Reading (List α)} {found : List α}
    {made later : List Node} {tokens : List Token}
    (reads : parts.run (reader anchors handles (made ++ [collection []]) tokens) =
      .ok (found, reader anchors handles (made ++ [collection []] ++ later) rest)) :
    (filled none collection parts).run (reader anchors handles made tokens) =
      .ok (made.length, reader anchors handles (made ++ collection found :: later) rest) := by
  unfold filled
  rw [StateT.run_bind, named_reader]
  change (parts.run _ >>= fun found => Except.ok (made.length,
    State.mk found.2.tokens (found.2.nodes.setIfInBounds made.length (collection found.1)) found.2.anchors found.2.handles)) = _
  rw [reads]
  change Except.ok (made.length, State.mk rest (Array.setIfInBounds _ _ _) anchors handles) = _
  simp [reader]

theorem read_scalar (position : Position) (fuel : Nat) (made : List Node) (leaf : Leaf) :
    (read position (fuel + 1)).run (reader anchors handles made (leaf.token :: rest)) =
      .ok (made.length, reader anchors handles (made ++ [leaf.node]) rest) := by
  unfold read
  cases leaf with
  | plain word => exact named_reader made (Leaf.plain word).node
  | quoted text => exact named_reader made (Leaf.quoted text).node

theorem readBlockPart_tokens (fuel : Nat) (rest : List Token) (anchors : List (Text × NodeId)) (handles : List (Text × Text)) (tree : Tree) (made : List Node) :
    (readBlockPart (fuel + 1)).run (reader anchors handles made (tree.tokens ++ rest)) =
      (read .beside fuel).run (reader anchors handles made (tree.tokens ++ rest)) := by
  unfold readBlockPart
  cases tree with
  | scalar leaf => cases leaf <;> rfl
  | list items => rfl
  | mapping entries => rfl

theorem readBlockItems_cons (item : Tree) (made : List Node) :
    (readBlockItems (fuel + 1)).run (reader anchors handles made (.blockEntry :: (item.tokens ++ rest))) =
      (do pure ((← read .block fuel) :: (← readBlockItems fuel)) : Reading (List NodeId)).run
        (reader anchors handles made (item.tokens ++ rest)) := by
  rw [readBlockItems]
  cases item with
  | scalar leaf => cases leaf <;> rfl
  | list items => rfl
  | mapping entries => rfl

theorem run_peek {token : Token} (made : List Node) (goes : ∀ fault, token ≠ .stop fault) :
    peek.run (reader anchors handles made (token :: rest)) = pure (token, reader anchors handles made (token :: rest)) := by
  cases token with
  | stop fault => exact absurd rfl (goes fault)
  | _ => rfl

theorem run_skip (token : Token) (made : List Node) : skip.run (reader anchors handles made (token :: rest)) =
    pure ((), reader anchors handles made rest) := rfl

theorem readBlockEntries_cons (key : Text) (value : Tree) (made : List Node) :
    (readBlockEntries (fuel + 3)).run (reader anchors handles made (.key :: .scalar true key :: .value :: (value.tokens ++ rest))) =
      (do pure ((made.length, ← read .beside (fuel + 1)) :: (← readBlockEntries (fuel + 2))) : Reading (List (NodeId × NodeId))).run
        (reader anchors handles (made ++ [(Leaf.plain key).node]) (value.tokens ++ rest)) := by
  have first : (readBlockPart (fuel + 2)).run (reader anchors handles made (.scalar true key :: .value :: (value.tokens ++ rest))) =
      pure (made.length, reader anchors handles (made ++ [(Leaf.plain key).node]) (.value :: (value.tokens ++ rest))) :=
    (readBlockPart_tokens (fuel + 1) (.value :: (value.tokens ++ rest)) anchors handles (.scalar (.plain key)) made).trans
      (read_scalar .beside fuel made (.plain key))
  have second := readBlockPart_tokens (fuel + 1) rest anchors handles value (made ++ [(Leaf.plain key).node])
  rw [readBlockEntries]
  simp only [StateT.run_bind, run_peek, run_skip, pure_bind, first, second, ne_eq, reduceCtorEq, not_false_eq_true, implies_true]

mutual
theorem read_tokens (fuel : Nat) (rest : List Token) (position : Position) (inBlock : position ≠ .flow) (tree : Tree) (made : List Node)
    (enough : tree.tokens.length ≤ fuel) :
    (read position fuel).run (reader anchors handles made (tree.tokens ++ rest)) =
      .ok (made.length, reader anchors handles (made ++ tree.nodes made.length) rest) := by
  cases tree with
  | scalar leaf =>
    obtain ⟨fuel, rfl⟩ : ∃ less, fuel = less + 1 := ⟨fuel - 1, by simp [tokens] at enough; omega⟩
    exact read_scalar position fuel made leaf
  | list items =>
    rw [tokens, List.length_cons] at enough
    obtain ⟨fuel, rfl⟩ : ∃ less, fuel = less + 1 := ⟨fuel - 1, by omega⟩
    have reads := readBlockItems_tokens fuel rest items (made ++ [.list .list []]) (by omega)
    rw [List.length_append] at reads
    have whole := filled_reader reads
    rw [read]
    cases position with
    | block | beside => exact whole
    | flow => exact absurd rfl inBlock
  | mapping entries =>
    rw [tokens, List.length_cons] at enough
    obtain ⟨fuel, rfl⟩ : ∃ less, fuel = less + 1 := ⟨fuel - 1, by omega⟩
    have reads := readBlockEntries_tokens fuel rest entries (made ++ [.mapping .mapping []]) (by omega)
    rw [List.length_append] at reads
    have whole := filled_reader reads
    rw [read]
    cases position with
    | block | beside => exact whole
    | flow => exact absurd rfl inBlock

theorem readBlockItems_tokens (fuel : Nat) (rest : List Token) (items : List Tree) (made : List Node)
    (enough : (itemTokens items).length ≤ fuel) :
    (readBlockItems fuel).run (reader anchors handles made (itemTokens items ++ rest)) =
      .ok (itemPlaces made.length items, reader anchors handles (made ++ itemNodes made.length items) rest) := by
  cases items with
  | nil =>
    obtain ⟨fuel, rfl⟩ : ∃ less, fuel = less + 1 := ⟨fuel - 1, by simp [itemTokens] at enough; omega⟩
    rw [readBlockItems, itemNodes, List.append_nil]
    rfl
  | cons item more =>
    rw [itemTokens, List.length_cons, List.length_append] at enough
    obtain ⟨fuel, rfl⟩ : ∃ less, fuel = less + 1 := ⟨fuel - 1, by omega⟩
    have first := read_tokens fuel (itemTokens more ++ rest) .block nofun item made (by omega)
    have later := readBlockItems_tokens fuel rest more (made ++ item.nodes made.length) (by omega)
    rw [itemTokens, List.cons_append, List.append_assoc, readBlockItems_cons, StateT.run_bind, first]
    change ((readBlockItems fuel).run _ >>= _) = _
    rw [later, List.length_append, length_nodes, itemPlaces, itemNodes, ← List.append_assoc]
    rfl

theorem readBlockEntries_tokens (fuel : Nat) (rest : List Token) (entries : List (Text × Tree)) (made : List Node)
    (enough : (entryTokens entries).length ≤ fuel) :
    (readBlockEntries fuel).run (reader anchors handles made (entryTokens entries ++ rest)) =
      .ok (entryPlaces made.length entries, reader anchors handles (made ++ entryNodes made.length entries) rest) := by
  cases entries with
  | nil =>
    obtain ⟨fuel, rfl⟩ : ∃ less, fuel = less + 1 := ⟨fuel - 1, by simp [entryTokens] at enough; omega⟩
    rw [readBlockEntries, entryNodes, List.append_nil]
    rfl
  | cons entry more =>
    obtain ⟨key, value⟩ := entry
    simp only [entryTokens, List.length_cons, List.length_append] at enough
    obtain ⟨fuel, rfl⟩ : ∃ less, fuel = less + 3 := ⟨fuel - 3, by omega⟩
    have first := read_tokens (fuel + 1) (entryTokens more ++ rest) .beside nofun value (made ++ [(Leaf.plain key).node]) (by omega)
    have later := readBlockEntries_tokens (fuel + 2) rest more
      (made ++ [(Leaf.plain key).node] ++ value.nodes (made.length + 1)) (by omega)
    have length : (made ++ [(Leaf.plain key).node] ++ value.nodes (made.length + 1)).length = made.length + (value.size + 1) := by
      simp only [List.length_append, List.length_singleton, length_nodes, Nat.add_assoc, Nat.add_comm 1]
    have whole : made ++ [(Leaf.plain key).node] ++ value.nodes (made.length + 1) ++ entryNodes (made.length + (value.size + 1)) more =
        made ++ entryNodes made.length ((key, value) :: more) := by
      simp [entryNodes]
    rw [List.length_append, List.length_singleton] at first
    rw [length, whole] at later
    rw [entryTokens, List.cons_append, List.cons_append, List.cons_append, List.append_assoc, readBlockEntries_cons,
      StateT.run_bind, first]
    change ((readBlockEntries (fuel + 2)).run (reader anchors handles _ (entryTokens more ++ rest)) >>= _) = _
    rw [later]
    rfl
end

theorem readAll_tokens (fuel : Nat) (tree : Tree) (enough : tree.tokens.length < fuel) :
    (readAll fuel).run (reader [] [] [] (tree.tokens ++ [.stop none])) =
      .ok (some 0, reader [] usualHandles (tree.nodes 0) [.stop none]) := by
  have reads : (read .block fuel).run (reader [] usualHandles [] (tree.tokens ++ [.stop none])) =
      .ok (0, reader [] usualHandles (tree.nodes 0) [.stop none]) :=
    read_tokens fuel [.stop none] .block nofun tree [] (Nat.le_of_lt enough)
  obtain ⟨fuel, rfl⟩ : ∃ less, fuel = less + 1 := ⟨fuel - 1, by omega⟩
  have opened : (readAll (fuel + 1)).run (reader [] [] [] (tree.tokens ++ [.stop none])) =
      (do
        let root ← read .block (fuel + 1)
        readEnd (fuel + 1)
        pure (some root) : Reading (Option NodeId)).run (reader [] usualHandles [] (tree.tokens ++ [.stop none])) := by
    cases tree with
    | scalar leaf => cases leaf <;> rfl
    | list items => rfl
    | mapping entries => rfl
  rw [opened, StateT.run_bind, reads]
  rfl

end Node

theorem Nodes.ofTokens_tree (tree : Tree) : ofTokens (tree.tokens ++ [Token.stop none]) = .ok (some 0, (tree.nodes 0).toArray) := by
  have reads := Node.readAll_tokens (4 * (tree.tokens ++ [Token.stop none]).length + 4) tree (by simp; omega)
  change Except.map _ ((Node.readAll _).run (Node.reader [] [] [] (tree.tokens ++ [.stop none]))) = _
  rw [reads]
  rfl

end ChangeCapture.Yaml
