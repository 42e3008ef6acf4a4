import ChangeCapture.Flow.Projection
import ChangeCapture.Proofs.Json.Fields

namespace ChangeCapture.Projection

variable {specs other : List Spec} {spec : Spec} {name : Text} {table : List (Text × Spec)}

theorem lookup_put (spec : Spec) (table : List (Text × Spec)) (name : Text) :
    (byTable.put spec table).lookup name = if spec.tableName = name then some spec else table.lookup name := by
  induction table with
  | nil =>
    by_cases same : spec.tableName = name
    · simp [byTable.put, same]
    · have apart : (name == spec.tableName) = false := by simpa using fun equal => same (Eq.symm equal)
      simp [byTable.put, List.lookup_cons, apart, same]
  | cons item rest ih =>
    rcases item with ⟨first, old⟩
    by_cases taken : first = spec.tableName
    · subst taken
      by_cases same : spec.tableName = name
      · simp [byTable.put, same]
      · have apart : (name == spec.tableName) = false := by simpa using fun equal => same (Eq.symm equal)
        simp [byTable.put, List.lookup_cons, apart, same]
    · by_cases here : name = first
      · subst here
        simp [byTable.put, taken, Ne.symm taken]
      · have apart : (name == first) = false := by simpa using here
        simp [byTable.put, taken, List.lookup_cons, apart, ih]

theorem keys_put (spec : Spec) (table : List (Text × Spec)) (distinct : (table.map Prod.fst).Nodup) :
    ((byTable.put spec table).map Prod.fst).Nodup := by
  induction table with
  | nil => simp [byTable.put]
  | cons item rest ih =>
    rcases item with ⟨first, old⟩
    by_cases taken : first = spec.tableName
    · subst taken
      rw [byTable.put, if_pos rfl]
      exact distinct
    · simp only [List.map_cons, List.nodup_cons] at distinct
      simp only [byTable.put, taken, if_false, List.map_cons, List.nodup_cons]
      refine ⟨?_, ih distinct.2⟩
      rw [← lookup_isSome_iff_mem, lookup_put, if_neg (Ne.symm taken), lookup_isSome_iff_mem]
      exact distinct.1

-- The table is an index of the list: of two specifications under one name it holds
-- the later one.
theorem lookup_byTable (specs : List Spec) (name : Text) :
    (byTable specs).lookup name = specs.reverse.find? fun spec => spec.tableName = name := by
  suffices general : ∀ table : List (Text × Spec), (specs.foldl (fun table spec => byTable.put spec table) table).lookup name =
      (specs.reverse.find? fun spec => spec.tableName = name).or (table.lookup name) by
    exact (general []).trans (by simp)
  induction specs with
  | nil => simp
  | cons spec rest ih =>
    intro table
    rw [List.foldl_cons, ih, lookup_put, List.reverse_cons, List.find?_append]
    by_cases same : spec.tableName = name <;> simp [same]

def IsLast (specs : List Spec) (spec : Spec) : Prop :=
  specs.reverse.find? (fun other => other.tableName = spec.tableName) = some spec

theorem lookup_eq_some_iff : (byTable specs).lookup name = some spec ↔ IsLast specs spec ∧ spec.tableName = name := by
  rw [lookup_byTable]
  constructor
  · intro found
    have same : spec.tableName = name := by simpa using List.find?_some found
    subst same
    exact ⟨found, rfl⟩
  · rintro ⟨last, rfl⟩
    exact last

theorem keys_byTable (specs : List Spec) : ((byTable specs).map Prod.fst).Nodup := by
  suffices general : ∀ table : List (Text × Spec), (table.map Prod.fst).Nodup →
      ((specs.foldl (fun table spec => byTable.put spec table) table).map Prod.fst).Nodup from general [] List.nodup_nil
  induction specs with
  | nil => exact fun _ distinct => distinct
  | cons spec rest ih => exact fun table distinct => ih _ (keys_put spec table distinct)

theorem spec_of_lookup (found : (byTable specs).lookup name = some spec) : spec ∈ specs ∧ spec.tableName = name := by
  rw [lookup_byTable] at found
  exact ⟨List.mem_reverse.mp (List.mem_of_find?_eq_some found), by simpa using List.find?_some found⟩

theorem exists_lookup_of_spec (member : spec ∈ specs) : ∃ found, (byTable specs).lookup spec.tableName = some found := by
  rw [lookup_byTable]
  exact Option.isSome_iff_exists.mp (List.find?_isSome.mpr ⟨spec, List.mem_reverse.mpr member, decide_eq_true rfl⟩)

theorem lookup_of_spec (distinct : (specs.map Spec.tableName).Nodup) (member : spec ∈ specs) :
    (byTable specs).lookup spec.tableName = some spec := by
  rw [lookup_byTable]
  cases first : specs.reverse.find? fun one => one.tableName = spec.tableName with
  | none =>
    have absent := List.find?_eq_none.mp first spec (List.mem_reverse.mpr member)
    simp at absent
  | some found =>
    have same : found.tableName = spec.tableName := by simpa using List.find?_some first
    have present := List.mem_reverse.mp (List.mem_of_find?_eq_some first)
    rw [List.inj_on_of_nodup_map distinct present member same]

theorem mem_byTable {item : Text × Spec} : item ∈ byTable specs ↔ (byTable specs).lookup item.1 = some item.2 :=
  ⟨lookup_of_mem (keys_byTable specs), mem_of_lookup⟩

theorem lookup_byTable_of_perm (distinct : (specs.map Spec.tableName).Nodup) (perm : specs.Perm other) (name : Text) :
    (byTable specs).lookup name = (byTable other).lookup name := by
  have distinctOther := (perm.map Spec.tableName).nodup_iff.mp distinct
  cases found : (byTable specs).lookup name with
  | some spec =>
    obtain ⟨member, rfl⟩ := spec_of_lookup found
    exact (lookup_of_spec distinctOther (perm.mem_iff.mp member)).symm
  | none =>
    cases there : (byTable other).lookup name with
    | none => rfl
    | some spec =>
      obtain ⟨member, rfl⟩ := spec_of_lookup there
      rw [lookup_of_spec distinct (perm.mem_iff.mpr member)] at found
      cases found

end ChangeCapture.Projection
