import ChangeCapture.Proofs.Flow.ByTable
import ChangeCapture.Proofs.Registry.Building
import ChangeCapture.Proofs.Spec.Windows

namespace ChangeCapture

theorem Spec.Valid.tableLower_iff {one other : Spec} (valid : one.Valid) (validOther : other.Valid) :
    one.tableLower = other.tableLower ↔ one.tableName = other.tableName := by
  have ascii := Identifier.ascii_of_accepts valid.name
  have asciiOther := Identifier.ascii_of_accepts validOther.name
  constructor
  · intro same
    exact (Text.upper_lower ascii).symm.trans ((congrArg Text.upper same).trans (Text.upper_lower asciiOther))
  · intro same
    exact (Text.lower_upper ascii).symm.trans ((congrArg Text.lower same).trans (Text.lower_upper asciiOther))

namespace Projection

variable {registry : Registry} {specs : List Spec} {target : Option Text} {spec other : Spec}

-- The specification whose default query a flow is bound to when its own query is not in
-- the registry: the target's, or else the one of the first table by name. Of two for one
-- table the later one counts.
structure IsFallback (specs : List Spec) (target : Option Text) (spec : Spec) : Prop where
  last : IsLast specs spec
  first : target = some spec.tableName ∨
    (∀ other ∈ specs, target ≠ some other.tableName) ∧ ∀ other ∈ specs, Text.le spec.tableLower other.tableLower

theorem IsLast.mem (last : IsLast specs spec) : spec ∈ specs := (spec_of_lookup (lookup_eq_some_iff.mpr ⟨last, rfl⟩)).1

theorem IsLast.eq (last : IsLast specs spec) (lastOther : IsLast specs other) (same : spec.tableName = other.tableName) :
    spec = other := by
  have found := lookup_eq_some_iff.mpr ⟨last, same⟩
  rw [lookup_eq_some_iff.mpr ⟨lastOther, rfl⟩] at found
  exact (Option.some.inj found).symm

theorem IsFallback.mem (fallback : IsFallback specs target spec) : spec ∈ specs := fallback.last.mem

theorem IsFallback.eq (valid : ∀ spec ∈ specs, spec.Valid) (fallback : IsFallback specs target spec)
    (again : IsFallback specs target other) : spec = other := by
  refine fallback.last.eq again.last ?_
  rcases fallback.first with named | ⟨foreign, least⟩
  · rcases again.first with namedOther | ⟨foreign, -⟩
    · exact Option.some.inj (named.symm.trans namedOther)
    · exact absurd named (foreign spec fallback.mem)
  · rcases again.first with named | ⟨-, leastOther⟩
    · exact absurd named (foreign other again.mem)
    · have same := Text.le_antisymm (least other again.mem) (leastOther spec fallback.mem)
      exact ((valid spec fallback.mem).tableLower_iff (valid other again.mem)).mp same

def order (specs : List Spec) (target : Option Text) : List Spec :=
  (target.bind fun name => (byTable specs).lookup name).toList ++
    Sorting.sort (fun a b => Text.le a.tableLower b.tableLower) ((byTable specs).map Prod.snd)

theorem mem_sorted_iff : spec ∈ Sorting.sort (fun a b => Text.le a.tableLower b.tableLower) ((byTable specs).map Prod.snd) ↔
    IsLast specs spec := by
  rw [Sorting.mem_sort, List.mem_map]
  constructor
  · intro held
    obtain ⟨⟨name, found⟩, member, rfl⟩ := held
    exact (lookup_eq_some_iff.mp (mem_byTable.mp member)).1
  · intro last
    exact ⟨(spec.tableName, spec), mem_byTable.mpr (lookup_eq_some_iff.mpr ⟨last, rfl⟩), rfl⟩

theorem exists_order (valid : ∀ spec ∈ specs, spec.Valid) (present : specs ≠ []) (target : Option Text) :
    ∃ spec rest, order specs target = spec :: rest ∧ IsFallback specs target spec := by
  have last : ∀ other ∈ specs, ∃ found, IsLast specs found ∧ found.tableName = other.tableName := fun other member => by
    obtain ⟨found, there⟩ := exists_lookup_of_spec member
    exact ⟨found, lookup_eq_some_iff.mp there⟩
  cases asked : target.bind fun name => (byTable specs).lookup name with
  | some spec =>
    obtain ⟨name, rfl, found⟩ := Option.bind_eq_some_iff.mp asked
    obtain ⟨last, rfl⟩ := lookup_eq_some_iff.mp found
    exact ⟨spec, _, by rw [order, asked]; rfl, last, .inl rfl⟩
  | none =>
    have ordered : (order specs target).Pairwise fun a b => Text.le a.tableLower b.tableLower := by
      rw [order, asked]
      apply Sorting.sort_ordered
      · exact fun a b => Text.le_total a.tableLower b.tableLower
      · exact fun a b c => Text.le_trans
    have members : ∀ other, other ∈ order specs target ↔ IsLast specs other := by
      rw [order, asked]
      exact fun other => mem_sorted_iff
    cases same : order specs target with
    | nil =>
      obtain ⟨some, listed⟩ := List.exists_mem_of_ne_nil _ present
      obtain ⟨found, isLast, -⟩ := last some listed
      have member := (members found).mpr isLast
      rw [same] at member
      cases member
    | cons spec rest =>
      rw [same] at ordered members
      have isLast := (members spec).mp (List.mem_cons_self ..)
      refine ⟨spec, rest, rfl, isLast, .inr ⟨fun other member named => ?_, fun other member => ?_⟩⟩
      · obtain ⟨found, there⟩ := exists_lookup_of_spec member
        rw [named, Option.bind_some, there] at asked
        cases asked
      · obtain ⟨found, isLast, name⟩ := last other member
        rw [← ((valid found isLast.mem).tableLower_iff (valid other member)).mpr name]
        rcases List.mem_cons.mp ((members found).mpr isLast) with rfl | later
        · exact Text.le_iff.mpr (.inr rfl)
        · exact (List.pairwise_cons.mp ordered).1 found later

theorem defaultKey_of_fallback (valid : ∀ spec ∈ specs, spec.Valid) (built : Registry.build specs = .ok registry)
    (fallback : IsFallback specs target spec) : defaultKey registry specs target =
      spec.defaultWindow.map fun window => SqlId.make spec.tableName window := by
  obtain ⟨found, rest, same, again⟩ := exists_order valid (List.ne_nil_of_mem fallback.mem) target
  cases again.eq valid fallback
  have first : firstDefault registry (spec :: rest) =
      spec.defaultWindow.map fun window => some (SqlId.make spec.tableName window) := by
    cases default : spec.defaultWindow with
    | error fault => simp [firstDefault, default, bind, Except.bind, Except.map]
    | ok window =>
      have option := Spec.mem_of_defaultWindow (valid spec fallback.mem) default
      have member := (Registry.mem_of_build built).mpr ⟨spec, fallback.mem, window, option, rfl⟩
      have has : registry.has (SqlId.make spec.tableName window) := Registry.has_iff.mpr (List.mem_map_of_mem member)
      simp [firstDefault, default, has, bind, Except.bind, Except.map, pure, Except.pure]
  unfold defaultKey
  change (do
    let found ← firstDefault registry (order specs target)
    pure (found.getD ((registry.map Prod.fst).headD []))) = _
  rw [same, first]
  cases spec.defaultWindow <;> rfl

theorem exists_defaultKey_iff (valid : ∀ spec ∈ specs, spec.Valid) (present : specs ≠ [])
    (built : Registry.build specs = .ok registry) : (∃ key, defaultKey registry specs target = .ok key) ↔
      ∀ spec, IsFallback specs target spec → spec.HasDefault := by
  obtain ⟨spec, -, -, fallback⟩ := exists_order valid present target
  have single : (∀ other, IsFallback specs target other → other.HasDefault) ↔ spec.HasDefault := by
    constructor
    · exact fun each => each spec fallback
    · intro known other again
      rwa [← fallback.eq valid again]
  rw [defaultKey_of_fallback valid built fallback, single, ← Spec.exists_defaultWindow_iff (valid spec fallback.mem)]
  cases spec.defaultWindow <;> simp [Except.map]

-- An empty name is no table's, so it may as well not have been given.
theorem isFallback_filter_iff (valid : ∀ spec ∈ specs, spec.Valid) :
    IsFallback specs ((target.filter fun name => !name.isEmpty).map Text.upper) spec ↔
      IsFallback specs (target.map Text.upper) spec := by
  have named : ∀ other ∈ specs, ([] : Text) ≠ other.tableName := by
    intro other member empty
    have accepted := Identifier.accepts_upper (valid other member).name
    rw [← Spec.tableName, ← empty] at accepted
    cases accepted
  rcases target with - | name
  · rfl
  · cases name with
    | cons c rest => rfl
    | nil =>
      constructor
      · rintro ⟨last, foreign | ⟨-, least⟩⟩
        · cases foreign
        · exact ⟨last, .inr ⟨fun other member same => named other member (Option.some.inj same), least⟩⟩
      · rintro ⟨last, own | ⟨-, least⟩⟩
        · exact absurd (Option.some.inj own) (named spec last.mem)
        · exact ⟨last, .inr ⟨fun other _ same => (by cases same), least⟩⟩

end Projection

end ChangeCapture
