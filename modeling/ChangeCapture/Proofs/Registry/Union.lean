import ChangeCapture.Proofs.Registry.Building
import ChangeCapture.Proofs.Spec.Sample
import Mathlib.Algebra.GroupWithZero.Nat

namespace ChangeCapture.Registry

variable {specs : List Spec} {registry : Registry} {items : List (Text × Entry)} {fault : RegistryFault} {table window : Text}

def AsksAt (specs : List Spec) (position : Nat) (table window : Text) : Prop :=
  ∃ spec, specs[position]? = some spec ∧ spec.tableName = table ∧ window ∈ spec.windows.options

-- Two positions ask for the same window of the same table, be it that one
-- specification stands at both.
def AskedTwice (specs : List Spec) (table window : Text) : Prop :=
  ∃ one other, one ≠ other ∧ AsksAt specs one table window ∧ AsksAt specs other table window

structure IsUnion (specs : List Spec) (registry : Registry) : Prop where
  ordered : (registry.map Prod.fst).Pairwise fun a b => Text.lt a b
  length : registry.length = (specs.map fun spec => spec.windows.options.length).sum
  entries : ∀ spec ∈ specs, ∀ window ∈ spec.windows.options, ∃ sql, Query.renderWindow spec window = .ok sql ∧
    registry.lookup (SqlId.make spec.tableName window) = some ⟨sql, spec.tableName, window, spec.table.watermark⟩

theorem ordered_of_build (built : build specs = .ok registry) : (registry.map Prod.fst).Pairwise fun a b => Text.lt a b := by
  have distinct := keys_of_build built
  obtain ⟨-, rfl⟩ := build_eq_ok_iff.mp built
  have ordered : (sorted (specs.flatMap generated)).Pairwise fun a b => Text.le a.1 b.1 := by
    apply Sorting.sort_ordered
    · exact fun a b => Text.le_total a.1 b.1
    · exact fun a b c => Text.le_trans
  rw [List.Nodup, List.pairwise_map] at distinct
  rw [List.pairwise_map]
  refine (ordered.and distinct).imp ?_
  intro a b both
  obtain ⟨before, apart⟩ := both
  exact (Text.le_iff.mp before).resolve_right apart

theorem isUnion_of_build (built : build specs = .ok registry) : IsUnion specs registry where
  ordered := ordered_of_build built
  length := by
    obtain ⟨-, rfl⟩ := build_eq_ok_iff.mp built
    rw [(sorted_perm _).length_eq, List.length_flatMap]
    exact congrArg List.sum (List.map_congr_left fun spec _ => List.length_map ..)
  entries := by
    intro spec listed window option
    have member := (mem_of_build built).mpr ⟨spec, listed, window, option, rfl⟩
    exact ⟨_, Query.renderWindow_eq_ok option, lookup_of_mem (keys_of_build built) member⟩

theorem askedTwice_iff : (∃ table window, AskedTwice specs table window) ↔
    ¬ specs.Pairwise fun one other => one.tableName = other.tableName → one.windows.options.Disjoint other.windows.options := by
  rw [List.pairwise_iff_getElem]
  constructor
  · rintro ⟨table, window, first, second, apart, ⟨one, atFirst, ofOne, inOne⟩, ⟨other, atSecond, ofOther, inOther⟩⟩ disjoint
    obtain ⟨boundFirst, rfl⟩ := List.getElem?_eq_some_iff.mp atFirst
    obtain ⟨boundSecond, rfl⟩ := List.getElem?_eq_some_iff.mp atSecond
    rcases Nat.lt_or_gt_of_ne apart with before | behind
    · exact disjoint first second boundFirst boundSecond before (ofOne.trans ofOther.symm) inOne inOther
    · exact disjoint second first boundSecond boundFirst behind (ofOther.trans ofOne.symm) inOther inOne
  · intro clash
    simp only [not_forall, List.Disjoint, not_false_eq_true] at clash
    obtain ⟨first, second, boundFirst, boundSecond, before, same, window, inOne, inOther, -⟩ := clash
    exact ⟨_, window, first, second, Nat.ne_of_lt before, ⟨_, List.getElem?_eq_getElem boundFirst, rfl, inOne⟩,
      ⟨_, List.getElem?_eq_getElem boundSecond, same.symm, inOther⟩⟩

theorem exists_build_iff (valid : ∀ spec ∈ specs, spec.Valid) :
    (∃ registry, build specs = .ok registry) ↔ ¬ ∃ table window, AskedTwice specs table window := by
  rw [askedTwice_iff, not_not, ← keys_generated_iff valid]
  constructor
  · intro builds
    obtain ⟨registry, built⟩ := builds
    exact (build_eq_ok_iff.mp built).1
  · exact fun distinct => ⟨_, build_eq_ok_iff.mpr ⟨distinct, rfl⟩⟩

theorem conflict_of_join (failed : join registry items = .error fault) : ∃ before key entry after,
    items = before ++ (key, entry) :: after ∧ fault = .conflict key entry.table ∧
      key ∈ (registry ++ before).map Prod.fst := by
  induction items generalizing registry with
  | nil => cases failed
  | cons first rest ih =>
    rcases first with ⟨key, entry⟩
    unfold join at failed
    split at failed
    · rename_i taken
      cases failed
      exact ⟨[], key, entry, rest, rfl, rfl, by simpa using has_iff.mp taken⟩
    · obtain ⟨before, later, other, after, rfl, rfl, member⟩ := ih failed
      exact ⟨(key, entry) :: before, later, other, after, rfl, rfl, by simpa using member⟩

theorem join_of_collect (failed : collect registry specs = .error fault) : ∃ before spec after joined,
    specs = before ++ spec :: after ∧ collect registry before = .ok joined ∧ join joined (generated spec).sorted = .error fault := by
  induction specs generalizing registry with
  | nil => cases failed
  | cons spec rest ih =>
    simp only [collect, ofSpec_eq_ok] at failed
    cases first : join registry (generated spec).sorted with
    | error reason =>
      rw [first] at failed
      cases failed
      exact ⟨[], spec, rest, registry, rfl, rfl, first⟩
    | ok joined =>
      rw [first] at failed
      obtain ⟨before, later, after, whole, rfl, collected, stopped⟩ := ih failed
      exact ⟨spec :: before, later, after, whole, rfl, by simp [collect, ofSpec_eq_ok, first, collected], stopped⟩

-- The one way in which building fails. The key is not taken by a window of the same
-- specification, since these are distinct, so it was made at an earlier position.
theorem conflict_of_build (valid : ∀ spec ∈ specs, spec.Valid) (failed : build specs = .error fault) :
    ∃ table window, fault = .conflict (SqlId.make table window) table ∧ AskedTwice specs table window := by
  have stopped : collect [] specs = .error fault := by
    unfold build at failed
    cases collected : collect [] specs with
    | error reason =>
      rw [collected] at failed
      cases failed
      rfl
    | ok joined =>
      rw [collected] at failed
      cases failed
  obtain ⟨before, spec, after, joined, rfl, collected, clash⟩ := join_of_collect stopped
  obtain ⟨-, -, rfl⟩ := collect_eq_ok_iff.mp collected
  obtain ⟨earlier, key, entry, later, split, rfl, taken⟩ := conflict_of_join clash
  have ofSpec := valid spec (by simp)
  have own : (key, entry) ∈ generated spec := (sorted_perm _).mem_iff.mp (by rw [split]; simp)
  obtain ⟨window, option, same⟩ := List.mem_map.mp own
  cases same
  refine ⟨spec.tableName, window, rfl, ?_⟩
  have single : (((generated spec).sorted).map Prod.fst).Nodup := by
    have alone : ((([spec] : List Spec).flatMap generated).map Prod.fst).Nodup :=
      (keys_generated_iff (by simpa using ofSpec)).mpr (List.pairwise_singleton _ _)
    exact ((sorted_perm _).map Prod.fst).nodup_iff.mpr (by simpa using alone)
  rw [split, List.map_append, List.map_cons, List.nodup_append] at single
  rw [List.nil_append, List.map_append, List.mem_append] at taken
  have there := taken.resolve_right fun inside => single.2.2 _ inside _ (List.mem_cons_self ..) rfl
  obtain ⟨item, member, named⟩ := List.mem_map.mp there
  obtain ⟨other, listed, made⟩ := List.mem_flatMap.mp member
  obtain ⟨again, ofOther, rfl⟩ := List.mem_map.mp ((sorted_perm _).mem_iff.mp made)
  obtain ⟨tables, rfl⟩ := (SqlId.make_inj (valid other (by simp [listed])).name ofSpec.name).mp named
  obtain ⟨position, bound, rfl⟩ := List.mem_iff_getElem.mp listed
  refine ⟨position, before.length, Nat.ne_of_lt bound, ⟨before[position], ?_, tables, ofOther⟩, ⟨spec, by simp, rfl, option⟩⟩
  rw [List.getElem?_append_left bound, List.getElem?_eq_getElem bound]

-- Building succeeds exactly when no two positions ask for one window of one table, and
-- then it is their union, whatever order they come in. Nothing but such a window makes
-- it fail.
theorem union_of_build (accepted : ∀ spec ∈ specs, spec.Accepted) :
    ((∃ registry, build specs = .ok registry) ↔ ¬ ∃ table window, AskedTwice specs table window) ∧
      (∀ registry, build specs = .ok registry → IsUnion specs registry) ∧
      (∀ fault, build specs = .error fault → ∃ table window, fault = .conflict (SqlId.make table window) table ∧
        AskedTwice specs table window) ∧
      ∀ other, specs.Perm other → (build other).toOption = (build specs).toOption := by
  have valid : ∀ spec ∈ specs, spec.Valid := fun spec member => (accepted spec member).valid
  refine ⟨exists_build_iff valid, fun registry built => isUnion_of_build built,
    fun fault failed => conflict_of_build valid failed, fun other perm => ?_⟩
  cases built : build specs with
  | ok registry => rw [build_of_perm built perm]
  | error fault =>
    cases again : build other with
    | error reason => rfl
    | ok registry =>
      rw [build_of_perm again perm.symm] at built
      cases built

theorem union_of_sample : (∀ spec ∈ [Spec.Sample.orders, Spec.Sample.items], spec.Accepted) ∧
    (∃ registry, build [Spec.Sample.orders, Spec.Sample.items] = .ok registry ∧
      IsUnion [Spec.Sample.orders, Spec.Sample.items] registry ∧
      build [Spec.Sample.items, Spec.Sample.orders] = .ok registry) ∧
    ∃ fault table window, build [Spec.Sample.items, Spec.Sample.orders, Spec.Sample.items] = .error fault ∧
      fault = .conflict (SqlId.make table window) table ∧
      AskedTwice [Spec.Sample.items, Spec.Sample.orders, Spec.Sample.items] table window := by
  have accepted : ∀ spec ∈ [Spec.Sample.orders, Spec.Sample.items], spec.Accepted := by
    simpa using ⟨Spec.Sample.orders_accepted, Spec.Sample.items_accepted⟩
  have twice : ∀ spec ∈ [Spec.Sample.items, Spec.Sample.orders, Spec.Sample.items], spec.Accepted := by
    simpa using ⟨Spec.Sample.items_accepted, Spec.Sample.orders_accepted, Spec.Sample.items_accepted⟩
  obtain ⟨-, isUnion, -, anyOrder⟩ := union_of_build accepted
  refine ⟨accepted, ?_, ?_⟩
  · obtain ⟨registry, built⟩ := build_of_distinct (fun spec member => (accepted spec member).valid) (by decide)
    have swapped := anyOrder _ (.swap Spec.Sample.items Spec.Sample.orders [])
    rw [built] at swapped
    exact ⟨registry, built, isUnion registry built, eq_ok_of_toOption swapped⟩
  · obtain ⟨builds, -, failed, -⟩ := union_of_build twice
    cases built : build [Spec.Sample.items, Spec.Sample.orders, Spec.Sample.items] with
    | ok registry =>
      refine absurd ?_ (builds.mp ⟨registry, built⟩)
      exact ⟨"ITEM_2", "5m", 0, 2, by decide, ⟨Spec.Sample.items, rfl, by decide, List.mem_cons_self ..⟩,
        ⟨Spec.Sample.items, rfl, by decide, List.mem_cons_self ..⟩⟩
    | error fault =>
      obtain ⟨table, window, conflict⟩ := failed fault built
      exact ⟨fault, table, window, rfl, conflict⟩

end ChangeCapture.Registry
