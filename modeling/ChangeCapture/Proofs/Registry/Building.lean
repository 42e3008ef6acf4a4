import ChangeCapture.Proofs.Json.Fields
import ChangeCapture.Proofs.Query.Rendering
import ChangeCapture.Proofs.Registry.SqlId
import ChangeCapture.Proofs.Text.Order
import ChangeCapture.Registry.Basic

namespace ChangeCapture.Registry

variable {spec : Spec} {specs other : List Spec} {registry joined : Registry} {items : List (Text × Entry)}

def item (spec : Spec) (window : Text) : Text × Entry :=
  (SqlId.make spec.tableName window, ⟨(Query.ofSpec spec).render, spec.tableName, window, spec.table.watermark⟩)

def generated (spec : Spec) : Registry := spec.windows.options.map (item spec)

theorem mapM_item (spec : Spec) (windows : List Text) (each : ∀ window ∈ windows, window ∈ spec.windows.options) :
    (windows.mapM fun window => do
      let sql ← Query.renderWindow spec window
      pure (SqlId.make spec.tableName window, (⟨sql, spec.tableName, window, spec.table.watermark⟩ : Entry))) =
      Except.ok (windows.map (item spec)) := by
  induction windows with
  | nil => rfl
  | cons window rest ih =>
    have later := ih fun window member => each window (List.mem_cons_of_mem _ member)
    rw [List.mapM_cons, Query.renderWindow_eq_ok (each window (List.mem_cons_self ..)), later]
    rfl

theorem ofSpec_eq_ok (spec : Spec) : ofSpec spec = .ok (generated spec).sorted := by
  rw [ofSpec, mapM_item spec _ fun _ member => member]
  rfl

theorem has_iff {key : Text} : registry.has key ↔ key ∈ registry.map Prod.fst := by simp [has]

theorem join_eq_ok_iff : join registry items = .ok joined ↔
    (items.map Prod.fst).Nodup ∧ (∀ key ∈ items.map Prod.fst, key ∉ registry.map Prod.fst) ∧ joined = registry ++ items := by
  induction items generalizing registry with
  | nil => simp [join, eq_comm]
  | cons first rest ih =>
    rcases first with ⟨key, entry⟩
    by_cases taken : registry.has key
    · simp only [join, taken, if_true, reduceCtorEq, false_iff]
      intro held
      obtain ⟨-, free, -⟩ := held
      exact free key (List.mem_cons_self ..) (has_iff.mp taken)
    · have free : key ∉ registry.map Prod.fst := fun member => taken (has_iff.mpr member)
      rw [join, if_neg taken, ih]
      simp only [List.map_cons, List.nodup_cons, List.mem_cons, List.map_append, List.mem_append, List.map_nil,
        List.append_assoc, List.singleton_append]
      grind

theorem sorted_perm (registry : Registry) : registry.sorted.Perm registry := Sorting.sort_perm _ _

theorem collect_eq_ok_iff : collect registry specs = .ok joined ↔
    ((specs.flatMap fun spec => (generated spec).sorted).map Prod.fst).Nodup ∧
      (∀ key ∈ (specs.flatMap fun spec => (generated spec).sorted).map Prod.fst, key ∉ registry.map Prod.fst) ∧
      joined = registry ++ specs.flatMap fun spec => (generated spec).sorted := by
  induction specs generalizing registry with
  | nil => simp [collect, eq_comm]
  | cons spec rest ih =>
    simp only [collect, ofSpec_eq_ok]
    cases first : join registry (generated spec).sorted with
    | error fault =>
      simp only [reduceCtorEq, false_iff]
      intro held
      obtain ⟨distinct, free, -⟩ := held
      rw [List.flatMap_cons, List.map_append, List.nodup_append] at distinct
      have fits := join_eq_ok_iff.mpr ⟨distinct.1, fun key member => free key (by simp [member]), rfl⟩
      rw [first] at fits
      cases fits
    | ok joined =>
      obtain ⟨distinct, free, rfl⟩ := join_eq_ok_iff.mp first
      simp only [ih, List.flatMap_cons, List.map_append, List.nodup_append, List.mem_append, List.append_assoc]
      grind

theorem flatMap_sorted_perm (specs : List Spec) :
    (specs.flatMap fun spec => (generated spec).sorted).Perm (specs.flatMap generated) :=
  List.Perm.flatMap_left _ fun spec _ => sorted_perm (generated spec)

-- A registry can be built exactly when no two windows have one key, and then it holds
-- the entries of all windows in the order of their keys.
theorem build_eq_ok_iff : build specs = .ok registry ↔
    ((specs.flatMap generated).map Prod.fst).Nodup ∧ registry = sorted (specs.flatMap generated) := by
  have perm := flatMap_sorted_perm specs
  have keys := (perm.map Prod.fst).nodup_iff
  unfold build
  cases collected : collect [] specs with
  | error fault =>
    simp only [Except.map, reduceCtorEq, false_iff]
    intro held
    obtain ⟨distinct, -⟩ := held
    have whole : collect [] specs = .ok ([] ++ specs.flatMap fun spec => (generated spec).sorted) :=
      collect_eq_ok_iff.mpr ⟨keys.mpr distinct, by simp, rfl⟩
    rw [collected] at whole
    cases whole
  | ok joined =>
    obtain ⟨distinct, -, rfl⟩ := collect_eq_ok_iff.mp collected
    simp only [Except.map, Except.ok.injEq, List.nil_append, keys.mp distinct, true_and]
    rw [sorted, Text.sort_by_key distinct perm, ← sorted, eq_comm]

theorem mem_generated {field : Text × Entry} : field ∈ specs.flatMap generated ↔
    ∃ spec ∈ specs, ∃ window ∈ spec.windows.options, item spec window = field := by
  simp [generated]

theorem mem_of_build (built : build specs = .ok registry) {field : Text × Entry} : field ∈ registry ↔
    ∃ spec ∈ specs, ∃ window ∈ spec.windows.options, item spec window = field := by
  obtain ⟨-, rfl⟩ := build_eq_ok_iff.mp built
  rw [(sorted_perm _).mem_iff, mem_generated]

theorem keys_of_build (built : build specs = .ok registry) : (registry.map Prod.fst).Nodup := by
  obtain ⟨distinct, rfl⟩ := build_eq_ok_iff.mp built
  exact ((sorted_perm _).map Prod.fst).nodup_iff.mpr distinct

theorem shaped_of_build (built : build specs = .ok registry) : ∀ key ∈ registry.map Prod.fst, SqlId.isShaped key := by
  intro key member
  obtain ⟨field, present, rfl⟩ := List.mem_map.mp member
  obtain ⟨spec, -, window, -, rfl⟩ := (mem_of_build built).mp present
  exact SqlId.isShaped_make spec.tableName window

theorem sorted_of_build (built : build specs = .ok registry) : registry.sorted = registry := by
  obtain ⟨distinct, rfl⟩ := build_eq_ok_iff.mp built
  exact Text.sort_by_key (((sorted_perm _).map Prod.fst).nodup_iff.mpr distinct) (sorted_perm _)

theorem build_of_window {window : Text} (only : spec.windows.options = [window]) : build [spec] = .ok [item spec window] := by
  have single : [spec].flatMap generated = [item spec window] := by simp [generated, only]
  refine build_eq_ok_iff.mpr ⟨by simp [single], ?_⟩
  rw [single]
  rfl

theorem build_of_perm (built : build specs = .ok registry) (perm : specs.Perm other) : build other = .ok registry := by
  obtain ⟨distinct, rfl⟩ := build_eq_ok_iff.mp built
  have same : (specs.flatMap generated).Perm (other.flatMap generated) := perm.flatMap_right _
  refine build_eq_ok_iff.mpr ⟨(same.map Prod.fst).nodup_iff.mp distinct, ?_⟩
  exact Text.sort_by_key distinct same

structure OneLine (spec : Spec) : Prop where
  name : .char '\n' ∉ spec.table.name
  windows : ∀ window ∈ spec.windows.options, .char '\n' ∉ window

theorem parse?_item (valid : spec.Valid) (oneLine : OneLine spec) {window : Text} (member : window ∈ spec.windows.options) :
    SqlId.parse? (item spec window).1 = some (spec.tableName, window) :=
  SqlId.parse?_make valid.name oneLine.name (valid.tokens window member) (oneLine.windows window member)

-- Keys come twice exactly where two specifications of one table have a window in
-- common: the windows of one are distinct, and a key tells table and window.
theorem keys_generated_iff (valid : ∀ spec ∈ specs, spec.Valid) : ((specs.flatMap generated).map Prod.fst).Nodup ↔
    specs.Pairwise fun one other => one.tableName = other.tableName → one.windows.options.Disjoint other.windows.options := by
  have inj : ∀ {one other window later}, one ∈ specs → other ∈ specs →
      ((item one window).1 = (item other later).1 ↔ one.tableName = other.tableName ∧ window = later) := fun here there =>
    SqlId.make_inj (valid _ here).name (valid _ there).name
  rw [List.map_flatMap, List.nodup_flatMap, and_iff_right]
  · refine List.Pairwise.iff_of_mem fun {one other} here there => ?_
    simp only [Function.onFun, generated, List.map_map, List.disjoint_left, List.mem_map, Function.comp_apply]
    constructor
    · intro apart same window ofOne ofOther
      exact apart ⟨window, ofOne, rfl⟩ ⟨window, ofOther, ((inj here there).mpr ⟨same, rfl⟩).symm⟩
    · rintro apart _ ⟨window, ofOne, rfl⟩ ⟨later, ofOther, same⟩
      obtain ⟨tables, windows⟩ := (inj there here).mp same
      exact apart tables.symm ofOne (windows ▸ ofOther)
  · intro spec member
    rw [generated, List.map_map]
    exact (valid spec member).distinct.map fun window later same => ((inj member member).mp same).2

theorem keys_generated (valid : ∀ spec ∈ specs, spec.Valid) (distinct : (specs.map Spec.tableName).Nodup) :
    ((specs.flatMap generated).map Prod.fst).Nodup := by
  refine (keys_generated_iff valid).mpr ((List.pairwise_map.mp distinct).imp fun apart same => ?_)
  exact absurd same apart

theorem build_of_distinct (valid : ∀ spec ∈ specs, spec.Valid) (distinct : (specs.map Spec.tableName).Nodup) :
    ∃ registry, build specs = .ok registry :=
  ⟨_, build_eq_ok_iff.mpr ⟨keys_generated valid distinct, rfl⟩⟩

end ChangeCapture.Registry
