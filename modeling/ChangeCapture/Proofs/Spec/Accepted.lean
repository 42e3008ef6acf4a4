import ChangeCapture.Proofs.Outcome
import ChangeCapture.Proofs.Text.Letters
import ChangeCapture.Proofs.Text.Parts
import ChangeCapture.Spec.Validation
import Mathlib.Data.List.Basic

namespace ChangeCapture

namespace Checked

variable {α β : Type} {part : Checked α} {path : List Text} {value : α} {broken : α → Option Rule}

theorem ensure_eq_ok_iff : ensure part path broken = .ok value ↔ part = .ok value ∧ broken value = none := by
  unfold ensure fail
  constructor
  · intro passed
    split at passed
    · cases passed
    · split at passed
      · cases passed
      · rename_i unbroken
        cases passed
        exact ⟨rfl, unbroken⟩
  · intro held
    obtain ⟨rfl, unbroken⟩ := held
    simp [unbroken]

theorem all_eq_ok_iff {parts : List (Checked α)} {values : List α} : all parts = .ok values ↔ parts = values.map .ok := by
  induction parts generalizing values with
  | nil =>
    cases values with
    | nil => simp [all]
    | cons value rest => simp [all]
  | cons part rest ih =>
    unfold all
    cases values with
    | nil => split <;> simp
    | cons value values =>
      rw [List.map_cons, List.cons.injEq, ← ih]
      split
      · rename_i later
        rw [later]
        simp
      · rename_i other
        simp only [reduceCtorEq, false_iff]
        intro held
        exact other _ _ held.1 held.2

end Checked

namespace Spec

open Validation

-- What the checks promise of a specification that has passed them.
structure Valid (spec : Spec) : Prop where
  name : Identifier.accepts spec.table.name
  schema : Identifier.accepts spec.table.schema
  primaryKey : Identifier.accepts spec.table.primaryKey
  watermark : Identifier.accepts spec.table.watermark
  columns : ∀ columns, spec.columns = some columns → columns ≠ [] ∧ ∀ column ∈ columns, Identifier.accepts column.name
  windows : spec.windows.options ≠ []
  tokens : ∀ window ∈ spec.windows.options, Window.accepts window
  distinct : spec.windows.options.Nodup
  default : ∀ window, spec.windows.default = some window → window ∈ spec.windows.options
  idField : spec.destination.idField = spec.table.primaryKey

def Accepted (spec : Spec) : Prop := ∃ document, ofDocument document = .ok spec

end Spec

namespace Spec.Validation

theorem accepts_of_identifierAt {path : List Text} {value : Option Document} {name : Text}
    (read : identifierAt path value = .ok name) : Identifier.accepts name := by
  have unbroken := (Checked.ensure_eq_ok_iff.mp read).2
  unfold identifierRule at unbroken
  split at unbroken
  · assumption
  · cases unbroken

theorem accepts_of_columnAt {path : List Text} {value : Document} {column : Column}
    (read : columnAt path value = .ok column) : Identifier.accepts column.name := by
  unfold columnAt at read
  split at read
  · cases read
  · dsimp only at read
    split at read
    · rename_i ofName _ _
      cases read
      exact accepts_of_identifierAt ofName
    · cases read

theorem accepts_of_all {items : List (Checked Column)} {columns : List Column} (read : Checked.all items = .ok columns)
    (each : ∀ item ∈ items, ∀ column, item = .ok column → Identifier.accepts column.name) :
    ∀ column ∈ columns, Identifier.accepts column.name := by
  induction items generalizing columns with
  | nil =>
    cases read
    simp
  | cons item rest ih =>
    unfold Checked.all at read
    split at read
    · rename_i first later same
      cases read
      intro column member
      rcases List.mem_cons.mp member with rfl | member
      · exact each _ (List.mem_cons_self ..) _ rfl
      · exact ih same (fun item present => each item (List.mem_cons_of_mem _ present)) column member
    · cases read

theorem accepts_of_eachAt {path : List Text} {value : Document} {columns : List Column}
    (read : eachAt path columnAt value = .ok columns) : ∀ column ∈ columns, Identifier.accepts column.name := by
  unfold eachAt at read
  split at read
  · cases read
  · apply accepts_of_all read
    intro item member column same
    obtain ⟨index, _, made⟩ := List.mem_mapIdx.mp member
    exact accepts_of_columnAt (made.trans same)

theorem accepts_of_tableAt {path : List Text} {value : Document} {table : Table} (read : tableAt path value = .ok table) :
    Identifier.accepts table.name ∧ Identifier.accepts table.schema ∧ Identifier.accepts table.primaryKey ∧
      Identifier.accepts table.watermark := by
  unfold tableAt at read
  split at read
  · cases read
  · dsimp only at read
    split at read
    · rename_i ofName ofSchema ofKey ofWatermark _
      cases read
      exact ⟨accepts_of_identifierAt ofName, accepts_of_identifierAt ofSchema, accepts_of_identifierAt ofKey,
        accepts_of_identifierAt ofWatermark⟩
    · cases read

theorem accepts_of_destinationAt {path : List Text} {value : Document} {destination : Destination}
    (read : destinationAt path value = .ok destination) : Identifier.accepts destination.idField := by
  unfold destinationAt at read
  split at read
  · cases read
  · dsimp only at read
    split at read
    · rename_i ofKey _
      cases read
      exact accepts_of_identifierAt ofKey
    · cases read

theorem optionsRule_eq_none_iff {options : List Text} : optionsRule options = none ↔
    options ≠ [] ∧ (∀ window ∈ options, Window.accepts window) ∧ options.Nodup := by
  unfold optionsRule
  constructor
  · intro unbroken
    split at unbroken
    · cases unbroken
    · rename_i present
      split at unbroken
      · cases unbroken
      · rename_i tokens
        split at unbroken
        · cases unbroken
        · rename_i repeats
          refine ⟨by simpa using present, fun window member => ?_, by simpa [hasRepeats] using repeats⟩
          simpa using List.find?_eq_none.mp tokens window member
  · intro held
    obtain ⟨present, tokens, distinct⟩ := held
    have clean : options.find? (fun window => !Window.accepts window) = none :=
      List.find?_eq_none.mpr fun window member => by simp [tokens window member]
    simp [present, clean, hasRepeats, distinct]

theorem windowsAt_rules {path : List Text} {value : Document} {windows : Windows}
    (read : windowsAt path value = .ok windows) : optionsRule windows.options = none ∧ defaultRule windows = none := by
  unfold windowsAt at read
  split at read
  · cases read
  · dsimp only at read
    split at read
    · rename_i ofOptions _
      obtain ⟨same, unbroken⟩ := Checked.ensure_eq_ok_iff.mp read
      cases same
      exact ⟨(Checked.ensure_eq_ok_iff.mp ofOptions).2, unbroken⟩
    · cases read

theorem columnsRule_of_columns {value : Option Document} {columns : List Column}
    (read : optional (fun value => Checked.ensure (eachAt ["columns"] columnAt value) ["columns"] columnsRule) value =
      .ok (some columns)) : columns ≠ [] ∧ ∀ column ∈ columns, Identifier.accepts column.name := by
  unfold optional at read
  split at read
  · cases read
  · cases read
  · rename_i value _
    cases checked : Checked.ensure (eachAt ["columns"] columnAt value) ["columns"] columnsRule with
    | error issues => simp [checked, Except.map] at read
    | ok items =>
      simp only [checked, Except.map, Except.ok.injEq, Option.some.injEq] at read
      subst read
      obtain ⟨each, unbroken⟩ := Checked.ensure_eq_ok_iff.mp checked
      refine ⟨?_, accepts_of_eachAt each⟩
      intro same
      subst same
      cases unbroken

theorem required_eq_ok_iff {α : Type} {path : List Text} {read : Document → Checked α} {value : Option Document} {part : α} :
    required path read value = .ok part ↔ ∃ document, value = some document ∧ read document = .ok part := by
  cases value with
  | none => simp [required, Checked.fail]
  | some document => simp [required]

theorem idField_of_specRule {spec : Spec} (unbroken : specRule spec = none) :
    spec.destination.idField = spec.table.primaryKey := by
  unfold specRule at unbroken
  split at unbroken
  · cases unbroken
  · rename_i same
    exact not_not.mp same

theorem default_of_defaultRule {windows : Windows} (unbroken : defaultRule windows = none) {window : Text}
    (pinned : windows.default = some window) : window ∈ windows.options := by
  simpa [defaultRule, pinned] using unbroken

theorem valid_of_specAt {entries : Entries} {spec : Spec} (read : specAt entries = .ok spec) : spec.Valid := by
  unfold specAt at read
  dsimp only at read
  split at read
  · rename_i ofTable ofWindows _ ofColumns _
    obtain ⟨same, unbroken⟩ := Checked.ensure_eq_ok_iff.mp read
    cases same
    obtain ⟨_, -, table⟩ := required_eq_ok_iff.mp ofTable
    obtain ⟨name, schema, primaryKey, watermark⟩ := accepts_of_tableAt table
    obtain ⟨_, -, windows⟩ := required_eq_ok_iff.mp ofWindows
    obtain ⟨ofOptions, ofDefault⟩ := windowsAt_rules windows
    obtain ⟨present, tokens, distinct⟩ := optionsRule_eq_none_iff.mp ofOptions
    refine ⟨name, schema, primaryKey, watermark, ?_, present, tokens, distinct, ?_, idField_of_specRule unbroken⟩
    · rintro columns rfl
      exact columnsRule_of_columns ofColumns
    · exact fun window pinned => default_of_defaultRule ofDefault pinned
  · cases read

end Spec.Validation

theorem Spec.Accepted.valid {spec : Spec} (accepted : spec.Accepted) : spec.Valid := by
  obtain ⟨document, read⟩ := accepted
  unfold Spec.ofDocument at read
  split at read
  · rename_i entries
    exact Spec.Validation.valid_of_specAt (mapError_eq_ok_iff.mp read)
  · cases read

end ChangeCapture
