import ChangeCapture.Text.Basic
import Mathlib.Data.List.Perm.Basic

namespace ChangeCapture.Sorting

variable {α : Type} {le : α → α → Bool} {items other : List α}

theorem insert_perm (le : α → α → Bool) (item : α) (items : List α) :
    (insert le item items).Perm (item :: items) := by
  induction items with
  | nil => exact .refl _
  | cons next rest ih =>
    unfold insert
    split
    · exact .refl _
    · exact (ih.cons next).trans (.swap item next rest)

theorem sort_perm (le : α → α → Bool) (items : List α) : (sort le items).Perm items := by
  induction items with
  | nil => exact .refl _
  | cons item rest ih => exact (insert_perm le item (sort le rest)).trans (ih.cons item)

@[simp] theorem mem_sort {item : α} : item ∈ sort le items ↔ item ∈ items := (sort_perm le items).mem_iff

theorem insert_ordered (total : ∀ a b, le a b ∨ le b a) (trans : ∀ a b c, le a b → le b c → le a c) (item : α)
    (ordered : items.Pairwise fun a b => le a b) : (insert le item items).Pairwise fun a b => le a b := by
  induction ordered with
  | nil => exact List.pairwise_singleton _ _
  | @cons next rest first later ih =>
    unfold insert
    split
    · rename_i before
      refine .cons ?_ (.cons first later)
      intro b member
      rcases List.mem_cons.mp member with rfl | member
      · exact before
      · exact trans item next b before (first b member)
    · rename_i behind
      refine .cons ?_ ih
      intro b member
      rcases List.mem_cons.mp ((insert_perm le item rest).mem_iff.mp member) with rfl | member
      · exact (total b next).resolve_left behind
      · exact first b member

theorem sort_ordered (total : ∀ a b, le a b ∨ le b a) (trans : ∀ a b c, le a b → le b c → le a c)
    (items : List α) : (sort le items).Pairwise fun a b => le a b := by
  induction items with
  | nil => exact .nil
  | cons item rest ih => exact insert_ordered total trans item ih

theorem sort_of_ordered (ordered : items.Pairwise fun a b => le a b) : sort le items = items := by
  induction ordered with
  | nil => rfl
  | @cons item rest first later ih =>
    change insert le item (sort le rest) = item :: rest
    rw [ih]
    cases rest with
    | nil => rfl
    | cons next rest => simp [insert, first next (List.mem_cons_self ..)]

-- Where no two items may stand on either side of one another, the order that they
-- came in is lost.
theorem sort_of_perm (total : ∀ a b, le a b ∨ le b a) (trans : ∀ a b c, le a b → le b c → le a c)
    (same : ∀ a ∈ items, ∀ b ∈ items, le a b → le b a → a = b) (perm : items.Perm other) :
    sort le items = sort le other := by
  have both : (sort le items).Perm (sort le other) :=
    (sort_perm le items).trans (perm.trans (sort_perm le other).symm)
  refine both.eq_of_pairwise ?_ (sort_ordered total trans items) (sort_ordered total trans other)
  intro a b left right before behind
  exact same a (mem_sort.mp left) b (perm.mem_iff.mpr (mem_sort.mp right)) before behind

end ChangeCapture.Sorting
