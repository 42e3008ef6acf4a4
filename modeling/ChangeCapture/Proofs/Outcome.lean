import ChangeCapture.Text.Basic
import Mathlib.Data.List.Forall2

namespace ChangeCapture

variable {ε α β : Type} {first : Except ε α}

theorem ok_inj {a b : α} : (Except.ok a : Except ε α) = .ok b ↔ a = b := ⟨Except.ok.inj, congrArg _⟩

theorem eq_ok_of_isSome (present : first.toOption.isSome) : ∃ value, first = .ok value := by
  cases first with
  | error reason => cases present
  | ok value => exact ⟨value, rfl⟩

theorem eq_ok_of_toOption {value : α} (same : first.toOption = some value) : first = .ok value := by
  cases first with
  | error reason => cases same
  | ok found => exact congrArg _ (Option.some.inj same)

theorem eq_ok_of_any {holds : α → Bool} (found : first.toOption.any holds) : ∃ value, first = .ok value ∧ holds value := by
  cases first with
  | error reason => cases found
  | ok value => exact ⟨value, rfl, found⟩

theorem bind_eq_ok_iff {next : α → Except ε β} {value : β} :
    (first >>= next) = .ok value ↔ ∃ middle, first = .ok middle ∧ next middle = .ok value := by
  cases first with
  | error reason => simp [bind, Except.bind]
  | ok middle => simp [bind, Except.bind]

theorem exists_of_forall₂ {α β : Type} {related : α → β → Prop} {items : List α} {others : List β} {item : α}
    (each : List.Forall₂ related items others) (member : item ∈ items) : ∃ other ∈ others, related item other := by
  induction each with
  | nil => cases member
  | cons first rest ih =>
    rcases List.mem_cons.mp member with rfl | later
    · exact ⟨_, List.mem_cons_self .., first⟩
    · obtain ⟨other, listed, found⟩ := ih later
      exact ⟨other, List.mem_cons_of_mem _ listed, found⟩

theorem mapM_eq_ok_iff {step : α → Except ε β} {items : List α} {results : List β} :
    items.mapM step = .ok results ↔ List.Forall₂ (fun item result => step item = .ok result) items results := by
  induction items generalizing results with
  | nil => simp [pure, Except.pure, eq_comm]
  | cons item rest ih =>
    rw [List.mapM_cons]
    simp only [bind_eq_ok_iff, ih, List.forall₂_cons_left_iff, pure, Except.pure, Except.ok.injEq]
    constructor
    · intro held
      obtain ⟨result, first, others, later, rfl⟩ := held
      exact ⟨result, others, first, later, rfl⟩
    · intro held
      obtain ⟨result, others, first, later, rfl⟩ := held
      exact ⟨result, first, others, later, rfl⟩

theorem exists_mapM_iff {step : α → Except ε β} {items : List α} :
    (∃ results, items.mapM step = .ok results) ↔ ∀ item ∈ items, ∃ result, step item = .ok result := by
  simp only [mapM_eq_ok_iff]
  induction items with
  | nil => simp
  | cons item rest ih => simp [List.forall₂_cons_left_iff, ← ih]

theorem forM_eq_ok_iff {step : α → Except ε Unit} {items : List α} :
    items.forM step = .ok () ↔ ∀ item ∈ items, step item = .ok () := by
  induction items with
  | nil => simp [pure, Except.pure]
  | cons item rest ih =>
    change (step item >>= fun _ => rest.forM step) = .ok () ↔ _
    rw [bind_eq_ok_iff, List.forall_mem_cons, ← ih]
    constructor
    · intro held
      obtain ⟨⟨⟩, first, later⟩ := held
      exact ⟨first, later⟩
    · intro held
      exact ⟨(), held⟩

theorem map_eq_ok_iff {change : α → β} {value : β} :
    first.map change = .ok value ↔ ∃ middle, first = .ok middle ∧ change middle = value := by
  cases first <;> simp [Except.map]

theorem map_eq_error_iff {change : α → β} {reason : ε} : first.map change = .error reason ↔ first = .error reason := by
  cases first <;> simp [Except.map]

theorem mapError_eq_ok_iff {change : ε → β} {value : α} : first.mapError change = .ok value ↔ first = .ok value := by
  cases first with
  | error reason =>
    change Except.error (change reason) = Except.ok value ↔ Except.error reason = Except.ok value
    simp only [reduceCtorEq]
  | ok middle =>
    change Except.ok middle = Except.ok value ↔ Except.ok middle = Except.ok value
    simp only [Except.ok.injEq]

theorem mapError_eq_error_iff {change : ε → β} {reason : β} :
    first.mapError change = .error reason ↔ ∃ cause, first = .error cause ∧ change cause = reason := by
  cases first with
  | error cause => simp [Except.mapError]
  | ok value => simp [Except.mapError]

end ChangeCapture
