import ChangeCapture.Proofs.Sorting
import ChangeCapture.Proofs.Text.CodePoint
import Mathlib.Data.List.Nodup

namespace ChangeCapture.Text

theorem lt_irrefl (s : Text) : lt s s = false := by
  induction s with
  | nil => rfl
  | cons c rest ih => simp [lt, ih]

theorem lt_trans {s t u : Text} (first : lt s t) (second : lt t u) : lt s u := by
  induction s generalizing t u with
  | nil => cases t <;> cases u <;> simp_all [lt]
  | cons a s ih =>
    cases t with
    | nil => simp [lt] at first
    | cons b t =>
      cases u with
      | nil => simp [lt] at second
      | cons c u =>
        simp only [lt, Bool.or_eq_true, decide_eq_true_eq, Bool.and_eq_true, beq_iff_eq] at first second ⊢
        rcases first with below | ⟨same, first⟩
        · left
          rcases second with next | ⟨equal, -⟩ <;> omega
        · rcases second with next | ⟨equal, second⟩
          · left
            omega
          · exact .inr ⟨same.trans equal, ih first second⟩

theorem lt_total (s t : Text) : lt s t ∨ s = t ∨ lt t s := by
  induction s generalizing t with
  | nil => cases t <;> simp [lt]
  | cons a s ih =>
    cases t with
    | nil => simp [lt]
    | cons b t =>
      simp only [lt, Bool.or_eq_true, decide_eq_true_eq, Bool.and_eq_true, beq_iff_eq, List.cons.injEq]
      rcases Nat.lt_trichotomy a.toNat b.toNat with below | same | above
      · exact .inl (.inl below)
      · rcases ih t with first | equal | second
        · exact .inl (.inr ⟨same, first⟩)
        · exact .inr (.inl ⟨CodePoint.toNat_injective same, equal⟩)
        · exact .inr (.inr (.inr ⟨same.symm, second⟩))
      · exact .inr (.inr (.inl above))

theorem le_iff {s t : Text} : le s t ↔ lt s t ∨ s = t := by
  simp only [le, Bool.not_eq_true']
  constructor
  · intro behind
    rcases lt_total s t with before | same | after
    · exact .inl before
    · exact .inr same
    · rw [behind] at after
      cases after
  · rintro (before | rfl)
    · cases after : lt t s with
      | false => rfl
      | true => exact absurd (lt_trans before after) (by simp [lt_irrefl])
    · exact lt_irrefl s

theorem le_total (s t : Text) : le s t ∨ le t s := by
  rcases lt_total s t with before | rfl | after
  · exact .inl (le_iff.mpr (.inl before))
  · exact .inl (le_iff.mpr (.inr rfl))
  · exact .inr (le_iff.mpr (.inl after))

theorem le_trans {s t u : Text} (first : le s t) (second : le t u) : le s u := by
  rcases le_iff.mp first with before | rfl
  · rcases le_iff.mp second with after | rfl
    · exact le_iff.mpr (.inl (lt_trans before after))
    · exact first
  · exact second

theorem le_antisymm {s t : Text} (first : le s t) (second : le t s) : s = t := by
  rcases le_iff.mp first with before | same
  · simp only [le, before, Bool.not_true] at second
    cases second
  · exact same

@[simp] theorem mem_sorted {text : Text} {texts : List Text} : text ∈ sorted texts ↔ text ∈ texts :=
  Sorting.mem_sort

-- Items under different keys have one order by key, whatever order they came in.
theorem sort_by_key {α : Type} {items other : List (Text × α)} (distinct : (items.map Prod.fst).Nodup)
    (perm : items.Perm other) :
    Sorting.sort (fun a b => le a.1 b.1) items = Sorting.sort (fun a b => le a.1 b.1) other := by
  refine Sorting.sort_of_perm (fun a b => le_total a.1 b.1) (fun a b c => le_trans) ?_ perm
  intro a left b right before behind
  exact List.inj_on_of_nodup_map distinct left right (le_antisymm before behind)

end ChangeCapture.Text
