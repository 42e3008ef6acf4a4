import ChangeCapture.Proofs.Spec.Windows
import ChangeCapture.Proofs.Text.Order

namespace ChangeCapture

namespace Window

variable {window other third : Text}

def value (window : Text) : Nat := Text.digitsValue window.dropLast

theorem minutes_of_measurable (accepted : accepts window) (measurable : Measurable window) : minutes window = .ok (value window) := by
  obtain ⟨digits, present, each, rfl | rfl⟩ := token_of_accepts accepted
  · have nothing : ∀ c ∈ ([] : Text), Identifier.isNamePart c := by simp
    have read := Integer.read_ten present each nothing (by simp)
    have few := Nat.not_lt.mpr ((measurable_token_iff each).mp measurable)
    rw [minutes, value, List.dropLast_concat, ← List.append_nil digits, read, if_neg few]
    simp
  · exact absurd (by simp) measurable.1

-- The shorter window comes first, and of two that are equally long the one that is first in
-- code point order.
def Before (one other : Text) : Prop := value one < value other ∨ value one = value other ∧ Text.le one other

theorem Before.refl (window : Text) : Before window window := .inr ⟨rfl, Text.le_iff.mpr (.inr rfl)⟩

theorem Before.trans (first : Before window other) (second : Before other third) : Before window third := by
  rcases first with shorter | ⟨same, first⟩
  · rcases second with later | ⟨equal, -⟩
    · exact .inl (Nat.lt_trans shorter later)
    · exact .inl (equal ▸ shorter)
  · rcases second with later | ⟨equal, second⟩
    · exact .inl (same ▸ later)
    · exact .inr ⟨same.trans equal, Text.le_trans first second⟩

theorem Before.total (apart : ¬ Before window other) : Before other window := by
  simp only [Before, not_or, not_and, Nat.not_lt] at apart
  obtain ⟨atMost, apart⟩ := apart
  rcases Nat.lt_or_eq_of_le atMost with shorter | same
  · exact .inl shorter
  · exact .inr ⟨same, (Text.le_total other window).resolve_right (apart same.symm)⟩

theorem Before.antisymm (first : Before window other) (second : Before other window) : window = other := by
  rcases first with shorter | ⟨same, first⟩
  · rcases second with longer | ⟨equal, -⟩ <;> omega
  · rcases second with longer | ⟨-, second⟩
    · omega
    · exact Text.le_antisymm first second

end Window

namespace Spec

open Window (Before)

variable {spec other : Spec} {window : Text}

def IsDefault (spec : Spec) (window : Text) : Prop :=
  spec.windows.default = some window ∨
    spec.windows.default = none ∧ window ∈ spec.windows.options ∧ ∀ other ∈ spec.windows.options, Before window other

theorem IsDefault.eq {again : Text} (first : spec.IsDefault window) (second : spec.IsDefault again) : window = again := by
  rcases first with pinned | ⟨free, listed, least⟩
  · rcases second with same | ⟨free, -⟩
    · exact Option.some.inj (pinned.symm.trans same)
    · exact absurd (pinned.symm.trans free) (Option.some_ne_none _)
  · rcases second with pinned | ⟨-, present, leastOther⟩
    · exact absurd (pinned.symm.trans free) (Option.some_ne_none _)
    · exact (least again present).antisymm (leastOther window listed)

def measured (window : Text) : Int × Text := (Window.value window, window)

theorem shorter_measured_iff {one other : Text} : defaultWindow.shorter (measured one) (measured other) ↔ ¬ Before other one := by
  simp only [defaultWindow.shorter, measured, Before, Bool.or_eq_true, Bool.and_eq_true, decide_eq_true_iff, beq_iff_eq,
    Int.ofNat_lt, Int.ofNat_inj, not_or, not_and, Nat.not_lt]
  constructor
  · rintro (shorter | ⟨same, first⟩)
    · exact ⟨Nat.le_of_lt shorter, fun same => absurd same (Nat.ne_of_gt shorter)⟩
    · refine ⟨Nat.le_of_eq same, fun _ later => ?_⟩
      rcases Text.le_iff.mp later with later | rfl
      · exact absurd (Text.lt_trans first later) (by simp [Text.lt_irrefl])
      · exact absurd first (by simp [Text.lt_irrefl])
  · rintro ⟨atMost, apart⟩
    rcases Nat.lt_or_eq_of_le atMost with shorter | same
    · exact .inl shorter
    · refine .inr ⟨same, ?_⟩
      rcases Text.lt_total one other with first | rfl | later
      · exact first
      · exact absurd (Text.le_iff.mpr (.inr rfl)) (apart same.symm)
      · exact absurd (Text.le_iff.mpr (.inl later)) (apart same.symm)

-- Comparing one window after the other finds the first of all.
theorem foldl_shorter_before (rest : List Text) (first : Text) : ∃ least, (rest.map measured).foldl
    (fun best next => if defaultWindow.shorter next best then next else best) (measured first) = measured least ∧
      least ∈ first :: rest ∧ ∀ other ∈ first :: rest, Before least other := by
  induction rest generalizing first with
  | nil => exact ⟨first, rfl, List.mem_cons_self .., by simp [Before.refl]⟩
  | cons next rest ih =>
    rw [List.map_cons, List.foldl_cons]
    by_cases kept : Before first next
    · rw [if_neg fun shorter => shorter_measured_iff.mp shorter kept]
      obtain ⟨least, found, listed, before⟩ := ih first
      obtain ⟨beforeFirst, beforeRest⟩ := List.forall_mem_cons.mp before
      exact ⟨least, found, by grind, by simpa using ⟨beforeFirst, beforeFirst.trans kept, beforeRest⟩⟩
    · rw [if_pos (shorter_measured_iff.mpr kept)]
      obtain ⟨least, found, listed, before⟩ := ih next
      obtain ⟨beforeNext, beforeRest⟩ := List.forall_mem_cons.mp before
      exact ⟨least, found, List.mem_cons_of_mem _ listed, by simpa using ⟨beforeNext.trans (.total kept), beforeNext, beforeRest⟩⟩

theorem shortest_of_measurable (valid : spec.Valid) (measurable : ∀ window ∈ spec.windows.options, Window.Measurable window) :
    ∃ window, defaultWindow.shortest spec = .ok window ∧ window ∈ spec.windows.options ∧
      ∀ other ∈ spec.windows.options, Before window other := by
  have read : (spec.windows.options.mapM fun window => do
      let minutes ← Window.minutes window
      pure (minutes, window) : Except IntegerFault (List (Int × Text))) = .ok (spec.windows.options.map measured) := by
    rw [mapM_eq_ok_iff, List.forall₂_map_right_iff, List.forall₂_same]
    intro window listed
    rw [Window.minutes_of_measurable (valid.tokens window listed) (measurable window listed)]
    rfl
  obtain ⟨first, rest, same⟩ := List.exists_cons_of_ne_nil valid.windows
  rw [same] at read ⊢
  obtain ⟨least, found, listed, before⟩ := foldl_shorter_before rest first
  refine ⟨least, ?_, listed, before⟩
  unfold defaultWindow.shortest
  rw [same, read]
  simp only [bind, Except.bind, List.map_cons, found]
  rfl

theorem defaultWindow_eq_ok_iff (valid : spec.Valid) (measurable : ∀ window ∈ spec.windows.options, Window.Measurable window) :
    spec.defaultWindow = .ok window ↔ spec.IsDefault window := by
  have found : ∃ default, spec.defaultWindow = .ok default ∧ spec.IsDefault default := by
    cases pinned : spec.windows.default with
    | some default => exact ⟨default, defaultWindow_of_pinned valid pinned, .inl pinned⟩
    | none =>
      obtain ⟨least, found, listed, before⟩ := shortest_of_measurable valid measurable
      exact ⟨least, by rw [defaultWindow, pinned, found], .inr ⟨pinned, listed, before⟩⟩
  obtain ⟨default, made, isDefault⟩ := found
  rw [made, ok_inj]
  constructor
  · rintro rfl
    exact isDefault
  · exact isDefault.eq

inductive Shuffled (spec : Spec) : Spec → Prop where
  | windows {options : List Text} (perm : spec.windows.options.Perm options) :
    Shuffled spec { spec with windows := { spec.windows with options := options } }

def ShuffledAll (specs others : List Spec) : Prop := ∃ between, specs.Perm between ∧ List.Forall₂ Shuffled between others

theorem Shuffled.valid (shuffled : Shuffled spec other) (valid : spec.Valid) : other.Valid := by
  obtain ⟨perm⟩ := shuffled
  exact { valid with
    windows := fun empty => valid.windows (perm.trans (.of_eq empty)).eq_nil
    tokens := fun window listed => valid.tokens window (perm.mem_iff.mpr listed)
    distinct := perm.nodup_iff.mp valid.distinct
    default := fun window pinned => perm.mem_iff.mp (valid.default window pinned) }

theorem Shuffled.isDefault_iff (shuffled : Shuffled spec other) : other.IsDefault window ↔ spec.IsDefault window := by
  obtain ⟨perm⟩ := shuffled
  simp only [IsDefault, perm.mem_iff]

theorem Shuffled.defaultWindow_eq (shuffled : Shuffled spec other) (valid : spec.Valid)
    (measurable : ∀ window ∈ spec.windows.options, Window.Measurable window) : other.defaultWindow = spec.defaultWindow := by
  have measurableOther : ∀ window ∈ other.windows.options, Window.Measurable window := by
    obtain ⟨perm⟩ := shuffled
    exact fun window listed => measurable window (perm.mem_iff.mpr listed)
  obtain ⟨default, found⟩ := (exists_defaultWindow_iff valid).mpr (.inr measurable)
  rw [found, defaultWindow_eq_ok_iff (shuffled.valid valid) measurableOther, shuffled.isDefault_iff,
    ← defaultWindow_eq_ok_iff valid measurable]
  exact found

theorem Shuffled.tableName_eq (shuffled : Shuffled spec other) : other.tableName = spec.tableName := by
  obtain ⟨-⟩ := shuffled
  rfl

theorem Shuffled.tableLower_eq (shuffled : Shuffled spec other) : other.tableLower = spec.tableLower := by
  obtain ⟨-⟩ := shuffled
  rfl

namespace ShuffledAll

variable {specs others : List Spec}

theorem exists_of_mem (shuffled : ShuffledAll specs others) (listed : spec ∈ specs) : ∃ other ∈ others, Shuffled spec other := by
  obtain ⟨between, perm, each⟩ := shuffled
  exact exists_of_forall₂ each (perm.mem_iff.mp listed)

theorem exists_of_mem_other (shuffled : ShuffledAll specs others) (listed : other ∈ others) : ∃ spec ∈ specs, Shuffled spec other := by
  obtain ⟨between, perm, each⟩ := shuffled
  obtain ⟨spec, member, found⟩ := exists_of_forall₂ each.flip listed
  exact ⟨spec, perm.mem_iff.mpr member, found⟩

theorem tableNames_perm (shuffled : ShuffledAll specs others) : (specs.map tableName).Perm (others.map tableName) := by
  obtain ⟨between, perm, each⟩ := shuffled
  have same : between.map tableName = others.map tableName := by
    clear perm
    induction each with
    | nil => rfl
    | cons first rest ih => rw [List.map_cons, List.map_cons, first.tableName_eq, ih]
  exact same ▸ perm.map tableName

end ShuffledAll

end Spec

end ChangeCapture
