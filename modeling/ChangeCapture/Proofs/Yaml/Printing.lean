import ChangeCapture.Proofs.Yaml.Layout
import ChangeCapture.Proofs.Yaml.Tree

namespace ChangeCapture.Yaml

namespace Tree

mutual
-- The lines of a tree. It begins in a line with some spaces and dashes, behind which is its
-- column; what is nested in it stands two columns deeper.
def lines (indent dashes : Nat) : Tree → List Line
  | .scalar leaf => [.filled indent dashes (.item leaf)]
  | .list items => itemLines indent dashes items
  | .mapping entries => entryLines indent dashes entries

def itemLines (indent dashes : Nat) : List Tree → List Line
  | [] => []
  | item :: rest => lines indent (dashes + 1) item ++ itemLines (indent + 2 * dashes) 0 rest

def entryLines (indent dashes : Nat) : List (Text × Tree) → List Line
  | [] => []
  | (key, value) :: rest => entry indent dashes key value ++ entryLines (indent + 2 * dashes) 0 rest

def entry (indent dashes : Nat) (key : Text) : Tree → List Line
  | .scalar leaf => [.filled indent dashes (.entry key leaf)]
  | .list items => .filled indent dashes (.opening key) :: itemLines (indent + 2 * dashes + 2) 0 items
  | .mapping entries => .filled indent dashes (.opening key) :: entryLines (indent + 2 * dashes + 2) 0 entries
end

mutual
def isWritable : Tree → Bool
  | .scalar leaf => decide leaf.Fits
  | .list items => !items.isEmpty && areItemsWritable items
  | .mapping entries => !entries.isEmpty && areEntriesWritable entries

def areItemsWritable : List Tree → Bool
  | [] => true
  | item :: rest => isWritable item && areItemsWritable rest

def areEntriesWritable : List (Text × Tree) → Bool
  | [] => true
  | (key, value) :: rest =>
    (Plain.isWord key && decide (key.length ≤ Lexer.keyReach)) && (isWritable value && areEntriesWritable rest)
end

mutual
theorem fits_lines {line : Line} (tree : Tree) (writable : tree.isWritable) (indent dashes : Nat)
    (marked : ∀ leaf, tree = .scalar leaf → 0 < dashes) (member : line ∈ tree.lines indent dashes) : line.Fits := by
  cases tree with
  | scalar leaf =>
    rw [lines, List.mem_singleton] at member
    subst member
    have fits : leaf.Fits := of_decide_eq_true writable
    exact ⟨fits, fun _ => marked leaf rfl⟩
  | list items =>
    rw [isWritable, Bool.and_eq_true] at writable
    exact fits_itemLines items writable.2 indent dashes member
  | mapping entries =>
    rw [isWritable, Bool.and_eq_true] at writable
    exact fits_entryLines entries writable.2 indent dashes member

theorem fits_itemLines {line : Line} (items : List Tree) (writable : areItemsWritable items) (indent dashes : Nat)
    (member : line ∈ itemLines indent dashes items) : line.Fits := by
  cases items with
  | nil => cases member
  | cons item rest =>
    rw [areItemsWritable, Bool.and_eq_true] at writable
    rcases List.mem_append.mp member with first | later
    · exact fits_lines item writable.1 indent (dashes + 1) (fun _ _ => Nat.succ_pos dashes) first
    · exact fits_itemLines rest writable.2 (indent + 2 * dashes) 0 later

theorem fits_entryLines {line : Line} (entries : List (Text × Tree)) (writable : areEntriesWritable entries) (indent dashes : Nat)
    (member : line ∈ entryLines indent dashes entries) : line.Fits := by
  cases entries with
  | nil => cases member
  | cons first rest =>
    obtain ⟨key, value⟩ := first
    simp only [areEntriesWritable, Bool.and_eq_true, decide_eq_true_eq] at writable
    obtain ⟨⟨word, short⟩, ofValue, ofRest⟩ := writable
    have opening : (Line.filled indent dashes (.opening key)).Fits := ⟨⟨word, short⟩, nofun⟩
    rcases List.mem_append.mp member with here | later
    · cases value with
      | scalar leaf =>
        rw [entry, List.mem_singleton] at here
        subst here
        exact ⟨⟨word, short, of_decide_eq_true ofValue⟩, nofun⟩
      | list items =>
        rw [isWritable, Bool.and_eq_true] at ofValue
        rcases List.mem_cons.mp here with rfl | nested
        · exact opening
        · exact fits_itemLines items ofValue.2 _ 0 nested
      | mapping entries =>
        rw [isWritable, Bool.and_eq_true] at ofValue
        rcases List.mem_cons.mp here with rfl | nested
        · exact opening
        · exact fits_entryLines entries ofValue.2 _ 0 nested
    · exact fits_entryLines rest ofRest (indent + 2 * dashes) 0 later
end

end Tree

namespace Outline

open Yaml.Tree

variable {column margin dashes indent : Nat} {blocks : List Nat} {tokens : List Token} {outline : Outline}

-- Blocks that begin at a column or beyond it are still open. When they end, the rest is known.
def Beyond (column : Nat) (blocks : List Nat) (tokens : List Token) (outline : Outline) : Prop :=
  ∃ deeper, outline.blocks = deeper ++ blocks ∧ (∀ block ∈ deeper, column ≤ block) ∧
    List.replicate deeper.length Token.blockEnd ++ outline.tokens = tokens

def Before (column : Nat) (blocks : List Nat) : Prop := ∀ block, blocks.head? = some block → block < column

theorem beyond_self (column : Nat) (outline : Outline) : Beyond column outline.blocks outline.tokens outline :=
  ⟨[], rfl, nofun, rfl⟩

theorem Beyond.mono (beyond : Beyond column blocks tokens outline) (lower : margin ≤ column) : Beyond margin blocks tokens outline := by
  obtain ⟨deeper, open_, after, same⟩ := beyond
  exact ⟨deeper, open_, fun block member => Nat.le_trans lower (after block member), same⟩

theorem Beyond.ends (beyond : Beyond (column + 1) (column :: blocks) tokens outline) : Beyond column blocks (.blockEnd :: tokens) outline := by
  obtain ⟨deeper, blocksSame, after, tokensSame⟩ := beyond
  refine ⟨deeper ++ [column], by rw [blocksSame, List.append_assoc]; rfl, ?_, ?_⟩
  · intro block member
    rcases List.mem_append.mp member with old | new
    · exact Nat.le_of_succ_le (after block old)
    · exact Nat.le_of_eq (List.mem_singleton.mp new).symm
  · rw [List.length_append, List.length_singleton, List.replicate_succ, List.cons_append, tokensSame]

theorem Beyond.unwoundTo_eq (beyond : Beyond (column + 1) blocks tokens outline) (within : ∀ block, blocks.head? = some block → block ≤ column) :
    outline.unwoundTo column = ⟨blocks, tokens⟩ := by
  obtain ⟨deeper, blocksSame, after, tokensSame⟩ := beyond
  have inner : ∀ block ∈ deeper, decide (column < block) = true := fun block member => decide_eq_true (after block member)
  have unwound : outline.blocks.takeWhile (column < ·) = deeper := by
    rw [blocksSame, List.takeWhile_append_of_pos inner]
    cases blocks with
    | nil => simp
    | cons block rest =>
      have inside := within block rfl
      simp [Nat.not_lt.mpr inside]
  rw [unwoundTo, unwound, ended, blocksSame, List.drop_left, tokensSame]

theorem Beyond.closed_eq (beyond : Beyond column [] tokens outline) : outline.closed = tokens.reverse ++ [.stop none] := by
  obtain ⟨deeper, blocksSame, -, tokensSame⟩ := beyond
  rw [closed, blocksSame, List.append_nil, tokensSame, List.reverse_cons]

theorem withDashes_succ (dashes indent : Nat) (outline : Outline) : outline.withDashes (dashes + 1) indent =
    (((outline.withDashes dashes indent).unwoundTo (indent + 2 * dashes)).withBlock .blockSequence (indent + 2 * dashes)).emit .blockEntry := by
  induction dashes generalizing indent outline with
  | zero => rfl
  | succ dashes ih =>
    have column : indent + 2 + 2 * dashes = indent + 2 * (dashes + 1) := by omega
    rw [withDashes, ih, column]
    rfl

def OpensAt (token : Token) (column : Nat) (blocks : List Nat) (tokens : List Token) (outline : Outline) : Prop :=
  (outline.unwoundTo column).withBlock token column = ⟨column :: blocks, tokens⟩

theorem opensAt_of_before {token : Token} (before : Before column outline.blocks) :
    OpensAt token column outline.blocks (token :: outline.tokens) outline := by
  have within : outline.Within column := fun block head => Nat.le_of_lt (before block head)
  rw [OpensAt, unwoundTo_of_within within, withBlock]
  have deeper : outline.isDeeper column := by
    unfold isDeeper
    split
    · rfl
    · rename_i block rest same
      exact decide_eq_true (before block (by rw [same]; rfl))
  rw [if_pos deeper]

theorem opensAt_of_beyond {token : Token} (beyond : Beyond (column + 1) (column :: blocks) tokens outline) :
    OpensAt token column blocks tokens outline := by
  have within : ∀ block, (column :: blocks).head? = some block → block ≤ column :=
    fun block same => Nat.le_of_eq (Option.some.inj same).symm
  rw [OpensAt, beyond.unwoundTo_eq within, withBlock, isDeeper, if_neg (by simp)]

-- Behind the lines of a tree, all blocks that they open are known to end in its tokens.
def Prints (tree : Tree) : Prop := ∀ outline indent dashes, Before (indent + 2 * dashes) (outline.withDashes dashes indent).blocks →
  Beyond (indent + 2 * dashes) (outline.withDashes dashes indent).blocks
    (tree.tokens.reverse ++ (outline.withDashes dashes indent).tokens) ((tree.lines indent dashes).foldl Line.read outline)

theorem before_deeper (column : Nat) (blocks : List Nat) : Before (column + 2) (column :: blocks) := by
  intro block same
  obtain rfl := Option.some.inj same
  exact Nat.lt_add_of_pos_right Nat.two_pos

theorem beyond_item {item : Tree} (indent dashes : Nat) (prints : Prints item)
    (opens : OpensAt .blockSequence (indent + 2 * dashes) blocks tokens (outline.withDashes dashes indent)) :
    Beyond (indent + 2 * dashes + 1) ((indent + 2 * dashes) :: blocks) (item.tokens.reverse ++ .blockEntry :: tokens)
      ((item.lines indent (dashes + 1)).foldl Line.read outline) := by
  have opened : outline.withDashes (dashes + 1) indent = ⟨(indent + 2 * dashes) :: blocks, .blockEntry :: tokens⟩ := by
    rw [withDashes_succ, opens]
    rfl
  have printed := prints outline indent (dashes + 1)
  rw [opened] at printed
  exact (printed (before_deeper _ blocks)).mono (Nat.le_succ _)

theorem beyond_entry {value : Tree} (key : Text) (indent dashes : Nat) (prints : Prints value)
    (opens : OpensAt .blockMapping (indent + 2 * dashes) blocks tokens (outline.withDashes dashes indent)) :
    Beyond (indent + 2 * dashes + 1) ((indent + 2 * dashes) :: blocks)
      (value.tokens.reverse ++ .value :: .scalar true key :: .key :: tokens) ((entry indent dashes key value).foldl Line.read outline) := by
  have keyed : (outline.withDashes dashes indent).withKey key (indent + 2 * dashes) =
      ⟨(indent + 2 * dashes) :: blocks, .value :: .scalar true key :: .key :: tokens⟩ := by
    rw [withKey, opens]
    rfl
  have nested := prints ⟨(indent + 2 * dashes) :: blocks, .value :: .scalar true key :: .key :: tokens⟩ (indent + 2 * dashes + 2) 0
    (before_deeper _ blocks)
  cases value with
  | scalar leaf =>
    rw [entry, List.foldl_cons, Line.read, Body.read, keyed]
    exact beyond_self _ (emit leaf.token ⟨(indent + 2 * dashes) :: blocks, _⟩)
  | list items | mapping entries =>
    rw [entry, List.foldl_cons, Line.read, Body.read, keyed]
    exact nested.mono (Nat.le_succ _)

mutual
theorem prints_of_isWritable (tree : Tree) (writable : tree.isWritable) : Prints tree := by
  intro outline indent dashes before
  cases tree with
  | scalar leaf => exact beyond_self _ ((outline.withDashes dashes indent).emit leaf.token)
  | list items =>
    cases items with
    | nil => cases writable
    | cons item rest =>
      simp only [isWritable, areItemsWritable, Bool.and_eq_true] at writable
      have one := beyond_item indent dashes (prints_of_isWritable item writable.2.1) (opensAt_of_before before)
      have later := beyond_itemLines rest writable.2.2 one
      rw [lines, itemLines, List.foldl_append, Tree.tokens, itemTokens]
      simpa using later
  | mapping entries =>
    cases entries with
    | nil => cases writable
    | cons first rest =>
      obtain ⟨key, value⟩ := first
      simp only [isWritable, areEntriesWritable, Bool.and_eq_true] at writable
      have one := beyond_entry key indent dashes (prints_of_isWritable value writable.2.2.1) (opensAt_of_before before)
      have later := beyond_entryLines rest writable.2.2.2 one
      rw [lines, entryLines, List.foldl_append, Tree.tokens, entryTokens]
      simpa using later

theorem beyond_itemLines {column : Nat} {blocks : List Nat} {tokens : List Token} {outline : Outline} (items : List Tree)
    (writable : areItemsWritable items) (beyond : Beyond (column + 1) (column :: blocks) tokens outline) :
    Beyond column blocks ((itemTokens items).reverse ++ tokens) ((itemLines column 0 items).foldl Line.read outline) := by
  cases items with
  | nil => exact beyond.ends
  | cons item rest =>
    rw [areItemsWritable, Bool.and_eq_true] at writable
    have one := beyond_item column 0 (prints_of_isWritable item writable.1) (opensAt_of_beyond beyond)
    have later := beyond_itemLines rest writable.2 one
    rw [itemLines, List.foldl_append, itemTokens]
    simpa using later

theorem beyond_entryLines {column : Nat} {blocks : List Nat} {tokens : List Token} {outline : Outline} (entries : List (Text × Tree))
    (writable : areEntriesWritable entries) (beyond : Beyond (column + 1) (column :: blocks) tokens outline) :
    Beyond column blocks ((entryTokens entries).reverse ++ tokens) ((entryLines column 0 entries).foldl Line.read outline) := by
  cases entries with
  | nil => exact beyond.ends
  | cons first rest =>
    obtain ⟨key, value⟩ := first
    simp only [areEntriesWritable, Bool.and_eq_true] at writable
    have one := beyond_entry key column 0 (prints_of_isWritable value writable.2.1) (opensAt_of_beyond beyond)
    have later := beyond_entryLines rest writable.2.2 one
    rw [entryLines, List.foldl_append, entryTokens]
    simpa using later
end

end Outline

namespace Layout

def isFilled : Line → Bool
  | .filled _ _ _ => true
  | _ => false

theorem foldl_filter_isFilled (lines : List Line) (outline : Outline) :
    (lines.filter isFilled).foldl Line.read outline = lines.foldl Line.read outline := by
  induction lines generalizing outline with
  | nil => rfl
  | cons line lines ih =>
    cases line with
    | blank | comment => exact ih outline
    | filled indent dashes body => exact ih _

def comments (lines : List Line) : List Text := lines.filterMap fun
  | .comment words => some words
  | _ => none

theorem fits_of_shown {lines : List Line} {tree : Tree} (steady : isSteady lines) (shown : lines.filter isFilled = tree.lines 0 0)
    (writable : tree.isWritable) (collection : ∀ leaf, tree ≠ .scalar leaf)
    (fit : ∀ words ∈ comments lines, (Line.comment words).Fits) : Fits lines := by
  apply fits_of_isSteady steady
  intro line member
  cases line with
  | blank => trivial
  | comment words => exact fit words (List.mem_filterMap.mpr ⟨_, member, rfl⟩)
  | filled indent dashes body =>
    have listed := List.mem_filter.mpr ⟨member, (rfl : isFilled (.filled indent dashes body) = true)⟩
    rw [shown] at listed
    exact Tree.fits_lines tree writable 0 0 (fun leaf same => absurd same (collection leaf)) listed

theorem tokens_of_filled {lines : List Line} {tree : Tree} (writable : tree.isWritable) (shown : lines.filter isFilled = tree.lines 0 0) :
    tokens lines = tree.tokens ++ [.stop none] := by
  have printed := Outline.prints_of_isWritable tree writable ⟨[], []⟩ 0 0 nofun
  rw [← shown, foldl_filter_isFilled] at printed
  have ended := printed.closed_eq
  rw [tokens, ended]
  simp [Outline.withDashes]

end Layout

end ChangeCapture.Yaml
