import ChangeCapture.Contract.Verification
import ChangeCapture.Proofs.Flow.ByTable
import ChangeCapture.Proofs.Flow.Parts
import ChangeCapture.Proofs.Registry.SqlId
import ChangeCapture.Proofs.Text.Order
import Mathlib.Data.List.Perm.Subperm

namespace ChangeCapture.Contract

open FlowTemplate (Edge)

variable {table : SpecTable} {registry contents fields : Fields} {entries : Entries} {items : List Json} {key : Text}
  {entry : Entry}

-- Each check finds nothing exactly when what it looks for holds. Nothing else is
-- said about the checks later on.

theorem hasKey_iff : hasKey entries key ↔ key ∈ entries.map Prod.fst := by simp [hasKey]

@[simp] theorem mem_inOrder {α : Type} {item : Text × α} {list : List (Text × α)} : item ∈ inOrder list ↔ item ∈ list :=
  Sorting.mem_sort

theorem mem_entriesOf {item : Text × Entry} :
    item ∈ entriesOf fields ↔ ∃ data, (item.1, data) ∈ fields ∧ entryOf data = .ok item.2 := by
  simp only [entriesOf, List.mem_filterMap]
  constructor
  · intro held
    obtain ⟨⟨name, data⟩, member, read⟩ := held
    dsimp only at read
    split at read
    · rename_i entry accepted
      cases Option.some.inj read
      exact ⟨data, member, accepted⟩
    · cases read
  · intro held
    obtain ⟨data, member, accepted⟩ := held
    exact ⟨(item.1, data), member, by simp [accepted]⟩

theorem lookup_entriesOf (readable : ∀ field ∈ fields, ∃ entry, entryOf field.2 = .ok entry) (key : Text) :
    (entriesOf fields).lookup key = (fields.lookup key).bind fun data => (entryOf data).toOption := by
  induction fields with
  | nil => rfl
  | cons field rest ih =>
    rcases field with ⟨name, data⟩
    obtain ⟨entry, accepted⟩ := readable _ (List.mem_cons_self ..)
    have later := ih fun field member => readable field (List.mem_cons_of_mem _ member)
    have step : entriesOf ((name, data) :: rest) = (name, entry) :: entriesOf rest := by
      simp only at accepted
      simp [entriesOf, accepted]
    rw [step, List.lookup_cons, List.lookup_cons, later]
    cases key == name with
    | true =>
      simp only at accepted
      simp [accepted, Except.toOption]
    | false => rfl

theorem keys_entriesOf (readable : ∀ field ∈ fields, ∃ entry, entryOf field.2 = .ok entry) :
    (entriesOf fields).map Prod.fst = fields.map Prod.fst := by
  induction fields with
  | nil => rfl
  | cons field rest ih =>
    rcases field with ⟨name, data⟩
    obtain ⟨entry, accepted⟩ := readable _ (List.mem_cons_self ..)
    have later := ih fun field member => readable field (List.mem_cons_of_mem _ member)
    have step : entriesOf ((name, data) :: rest) = (name, entry) :: entriesOf rest := by
      simp only at accepted
      simp [entriesOf, accepted]
    rw [step, List.map_cons, List.map_cons, later]

theorem checkDocument_eq_nil_iff {document : Json} : checkDocument document = [] ↔
    ∃ fields, document = .object fields ∧ ∀ field ∈ fields, ∃ entry, entryOf field.2 = .ok entry := by
  cases document with
  | object fields =>
    simp only [checkDocument, List.filterMap_eq_nil_iff, Json.object.injEq, exists_eq_left']
    apply forall₂_congr
    intro field member
    cases entryOf field.2 <;> simp
  | null | bool | int | double | text | list => simp [checkDocument]

theorem checkWindows_eq_nil_iff : checkWindows table entries = [] ↔
    ∀ item ∈ table, ∀ window ∈ item.2.windows.options, SqlId.make item.1 window ∈ entries.map Prod.fst := by
  simp only [checkWindows, List.flatMap_eq_nil_iff, mem_inOrder, List.filterMap_eq_nil_iff]
  apply forall₄_congr
  intro item member window option
  rw [← hasKey_iff]
  cases hasKey entries (SqlId.make item.1 window) <;> simp

theorem checkKey_eq_nil_iff : checkKey table key = [] ↔
    ∀ name window, SqlId.parse? key = some (name, window) →
      ∃ spec, table.lookup name = some spec ∧ window ∈ spec.windows.options := by
  unfold checkKey
  split
  · rename_i undecoded
    simp [undecoded]
  · rename_i name window decoded
    simp only [decoded, Option.some.injEq, Prod.mk.injEq, and_imp]
    split
    · rename_i absent
      simp [absent]
    · rename_i spec found
      constructor
      · intro clean _ _ sameName sameWindow
        subst sameName sameWindow
        refine ⟨spec, found, ?_⟩
        by_contra missing
        simp [missing] at clean
      · intro known
        obtain ⟨other, there, option⟩ := known name window rfl rfl
        rw [found] at there
        cases there
        simp [option]

theorem checkBound_eq_nil_iff {sql edge : Text} :
    checkBound key sql edge = [] ↔ Text.occurrences (placeholder edge) sql = 1 := by
  simp only [checkBound]
  split <;> simp_all

theorem checkQuery_eq_nil_iff {spec : Option Spec} : checkQuery spec key entry = [] ↔
    ∃ watermark, watermark = (spec.map fun spec => spec.table.watermark).getD entry.watermark ∧
      Ordering.isBy entry.sql watermark ∧ Text.occurrences (placeholder rangeFrom) entry.sql = 1 ∧
      Text.occurrences (placeholder rangeTo) entry.sql = 1 ∧ entry.watermark = watermark := by
  cases spec <;>
  · simp only [checkQuery, List.append_eq_nil_iff, checkBound_eq_nil_iff, Option.map_none, Option.map_some,
      Option.getD_none, Option.getD_some, exists_eq_left, and_assoc]
    refine and_congr ?_ (and_congr_right fun _ => and_congr_right fun _ => ?_)
    all_goals split <;> simp_all

theorem checkNames_eq_nil_iff : checkNames key entry = [] ↔ SqlId.parse? key = some (entry.table, entry.window) := by
  unfold checkNames
  split
  · rename_i undecoded
    simp [undecoded]
  · rename_i name window decoded
    rw [decoded, List.append_eq_nil_iff]
    simp only [Option.some.injEq, Prod.mk.injEq]
    refine and_congr ?_ ?_
    · split <;> simp_all [eq_comm]
    · split <;> simp_all [eq_comm]

end ChangeCapture.Contract
