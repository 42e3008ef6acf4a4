import ChangeCapture.Proofs.Flow.Stops
import ChangeCapture.Proofs.Spec.Default

namespace ChangeCapture

variable {registry : Registry} {specs others : List Spec} {spec other : Spec}

namespace Projection

variable {target : Option Text} {contents processor result : Fields} {processors changed : List Json} {key name : Text}

-- The query that a projection of these processors is bound to: their own if the registry has
-- it, and otherwise the default.
def IsChosen (registry : Registry) (specs : List Spec) (target : Option Text) (processors : List Json) (key : Text) : Prop :=
  registry.has key ∧ HasProperty processors FlowTemplate.binding FlowTemplate.sqlIdProperty key ∨
    ¬ KeepsKey registry processors ∧ defaultKey registry specs target = .ok key

theorem hasProperty_of_find {value : Text} (found : Part.find? processors FlowTemplate.binding = some processor) :
    HasProperty processors FlowTemplate.binding name value ↔ (Part.properties processor).lookup name = some (.text value) := by
  simp [HasProperty, found, lookup_properties_iff]

theorem chosen_of_choose {current : Json} {bound : Fields}
    (chosen : (bindQuery.choose registry specs target processor current).outcome = .ok (key, bound)) :
    current = .text key ∧ registry.has key ∨
      (∀ other, current = .text other → ¬ registry.has other) ∧ defaultKey registry specs target = .ok key := by
  have rebound : (bindQuery.rebind registry specs target processor current).outcome = .ok (key, bound) →
      defaultKey registry specs target = .ok key := by
    intro made
    unfold bindQuery.rebind at made
    split at made
    · cases made
    · rename_i found
      cases made
      exact found
  unfold bindQuery.choose at chosen
  split at chosen
  · rename_i own
    split at chosen
    · rename_i has
      cases chosen
      exact .inl ⟨rfl, has⟩
    · rename_i absent
      refine .inr ⟨?_, rebound chosen⟩
      rintro _ ⟨⟩
      exact absent
  · rename_i noText
    exact .inr ⟨fun other same => absurd same (noText other), rebound chosen⟩

theorem isChosen_of_bindQuery {bound : Fields} (found : Part.find? processors FlowTemplate.binding = some processor)
    (binds : (bindQuery registry specs target processor).outcome = .ok (key, bound)) :
    IsChosen registry specs target processors key := by
  obtain ⟨_, made, rest⟩ := Repaired.bind_eq_ok_iff.mp binds
  cases (outcome_withProperties processor).symm.trans made
  obtain ⟨⟨chosen, middle⟩, choice, rest⟩ := Repaired.bind_eq_ok_iff.mp rest
  have same : chosen = key := by
    dsimp only at rest
    split at rest
    · cases rest
      rfl
    · obtain ⟨_, -, rest⟩ := Repaired.bind_eq_ok_iff.mp rest
      obtain ⟨_, -, rest⟩ := Repaired.bind_eq_ok_iff.mp rest
      cases rest
      rfl
  subst same
  rw [properties_of_lookup (Fields.lookup_put processor "properties" (.object (Part.properties processor)))] at choice
  have own : ∀ other, ((Part.properties processor).lookup FlowTemplate.sqlIdProperty).getD .null = .text other ↔
      HasProperty processors FlowTemplate.binding FlowTemplate.sqlIdProperty other := by
    intro other
    rw [hasProperty_of_find found]
    cases (Part.properties processor).lookup FlowTemplate.sqlIdProperty <;> simp
  rcases chosen_of_choose choice with ⟨kept, has⟩ | ⟨none, default⟩
  · exact .inl ⟨has, (own chosen).mp kept⟩
  · refine .inr ⟨?_, default⟩
    rintro ⟨other, has, held⟩
    exact none other ((own other).mpr held) has

theorem isChosen_of_syncProcessors (synced : (syncProcessors registry specs target processors).outcome = .ok (key, changed)) :
    IsChosen registry specs target processors key := by
  obtain ⟨⟨chosen, ofBinding⟩, first, rest⟩ := Repaired.bind_eq_ok_iff.mp synced
  obtain ⟨binding, _, found, binds, rfl⟩ := onProcessor_eq_ok_iff.mp first
  obtain ⟨_, -, rest⟩ := Repaired.bind_eq_ok_iff.mp rest
  obtain ⟨_, -, rest⟩ := Repaired.bind_eq_ok_iff.mp rest
  cases rest
  exact isChosen_of_bindQuery found binds

theorem isChosen_of_syncContents (synced : (syncContents registry specs target contents).outcome = .ok (key, result)) :
    IsChosen registry specs target (takenProcessors contents) key := by
  obtain ⟨topology, first, rest⟩ := Repaired.bind_eq_ok_iff.mp synced
  obtain ⟨-, -, rfl⟩ := topology_of_sync first
  obtain ⟨services, -, rest⟩ := Repaired.bind_eq_ok_iff.mp rest
  obtain ⟨service, -, rest⟩ := Repaired.bind_eq_ok_iff.mp rest
  obtain ⟨bound, processed, rest⟩ := Repaired.bind_eq_ok_iff.mp rest
  cases rest
  rw [processors_of_topology] at processed
  exact isChosen_of_syncProcessors processed

theorem isChosen_of_project {flow : Json} {projected : Projected}
    (projects : (project registry specs target flow).outcome = .ok projected) : ∃ contents,
      (started flow).field? "flowContents" = some (.object contents) ∧
        IsChosen registry specs target (takenProcessors contents) projected.sqlId := by
  obtain ⟨fields, contents, result, same, there, synced, -⟩ := project_eq_ok projects
  exact ⟨contents, by rw [same]; exact there, isChosen_of_syncContents synced⟩

def bindingOf (spec : Spec) : Text × Text := (spec.destination.index, spec.table.primaryKey)

section Agreeing

variable (default : defaultKey registry specs target = defaultKey registry others target)
  (bindings : ∀ table, ((byTable specs).lookup table).map bindingOf = ((byTable others).lookup table).map bindingOf)

include default in
theorem choose_congr (processor : Fields) (current : Json) :
    bindQuery.choose registry specs target processor current = bindQuery.choose registry others target processor current := by
  simp only [bindQuery.choose, bindQuery.rebind, default]

include default bindings in
theorem bindQuery_congr : bindQuery registry specs target = bindQuery registry others target := by
  funext processor
  unfold bindQuery
  simp only [choose_congr default]
  refine congrArg (withProperties processor >>= ·) (funext fun processor => ?_)
  refine congrArg (bindQuery.choose registry others target processor _ >>= ·) (funext fun chosen => ?_)
  cases registry.lookup chosen.1 with
  | none => rfl
  | some entry =>
    have same := bindings entry.table
    simp only [Option.bind_some]
    cases one : (byTable specs).lookup entry.table with
    | none =>
      rw [one, Option.map_none, eq_comm, Option.map_eq_none_iff] at same
      rw [same]
    | some spec =>
      rw [one, Option.map_some, eq_comm, Option.map_eq_some_iff] at same
      obtain ⟨other, two, same⟩ := same
      obtain ⟨index, idField⟩ := Prod.mk.inj same
      simp only [two, index, idField]

include default bindings in
theorem project_congr (flow : Json) : project registry specs target flow = project registry others target flow := by
  simp only [project, syncContents, syncProcessors, bindQuery_congr default bindings]

end Agreeing

section Shuffled

variable (distinct : (specs.map Spec.tableName).Nodup) (shuffled : Spec.ShuffledAll specs others)

include distinct shuffled in
theorem bindings_of_shuffled (table : Text) :
    ((byTable specs).lookup table).map bindingOf = ((byTable others).lookup table).map bindingOf := by
  have distinctOther := shuffled.tableNames_perm.nodup_iff.mp distinct
  cases found : (byTable specs).lookup table with
  | some spec =>
    obtain ⟨listed, rfl⟩ := spec_of_lookup found
    obtain ⟨other, member, same⟩ := shuffled.exists_of_mem listed
    rw [← same.tableName_eq, lookup_of_spec distinctOther member]
    obtain ⟨-⟩ := same
    rfl
  | none =>
    cases there : (byTable others).lookup table with
    | none => rfl
    | some other =>
      obtain ⟨listed, rfl⟩ := spec_of_lookup there
      obtain ⟨spec, member, same⟩ := shuffled.exists_of_mem_other listed
      rw [same.tableName_eq, lookup_of_spec distinct member] at found
      cases found

include distinct shuffled in
theorem isFallback_of_shuffled (fallback : IsFallback specs target spec) (same : Spec.Shuffled spec other) (listed : other ∈ others) :
    IsFallback others target other := by
  have distinctOther := shuffled.tableNames_perm.nodup_iff.mp distinct
  refine ⟨(lookup_eq_some_iff.mp (lookup_of_spec distinctOther listed)).1, ?_⟩
  rcases fallback.first with named | ⟨foreign, least⟩
  · exact .inl (same.tableName_eq ▸ named)
  · refine .inr ⟨fun next member => ?_, fun next member => ?_⟩
    · obtain ⟨former, there, again⟩ := shuffled.exists_of_mem_other member
      exact again.tableName_eq ▸ foreign former there
    · obtain ⟨former, there, again⟩ := shuffled.exists_of_mem_other member
      rw [same.tableLower_eq, again.tableLower_eq]
      exact least former there

include distinct shuffled in
theorem defaultKey_of_shuffled (valid : ∀ spec ∈ specs, spec.Valid)
    (measurable : ∀ spec ∈ specs, ∀ window ∈ spec.windows.options, Window.Measurable window) (present : specs ≠ [])
    (built : Registry.build specs = .ok registry) (builtOther : Registry.build others = .ok registry) (target : Option Text) :
    defaultKey registry specs target = defaultKey registry others target := by
  have validOther : ∀ other ∈ others, other.Valid := by
    intro other listed
    obtain ⟨spec, member, same⟩ := shuffled.exists_of_mem_other listed
    exact same.valid (valid spec member)
  obtain ⟨spec, -, -, fallback⟩ := exists_order valid present target
  obtain ⟨other, listed, same⟩ := shuffled.exists_of_mem fallback.mem
  rw [defaultKey_of_fallback valid built fallback,
    defaultKey_of_fallback validOther builtOther (isFallback_of_shuffled distinct shuffled fallback same listed),
    same.defaultWindow_eq (valid spec fallback.mem) (measurable spec fallback.mem), same.tableName_eq]

end Shuffled

end Projection

namespace Registry

theorem generated_of_shuffled (shuffled : Spec.Shuffled spec other) : (generated spec).Perm (generated other) := by
  obtain ⟨perm⟩ := shuffled
  exact perm.map (item spec)

theorem build_of_shuffled (shuffled : Spec.ShuffledAll specs others) (built : build specs = .ok registry) :
    build others = .ok registry := by
  obtain ⟨between, perm, each⟩ := shuffled
  obtain ⟨distinct, rfl⟩ := build_eq_ok_iff.mp (build_of_perm built perm)
  have same : (between.flatMap generated).Perm (others.flatMap generated) := by
    clear perm distinct built
    induction each with
    | nil => exact .refl _
    | cons first rest ih => exact (generated_of_shuffled first).append ih
  exact build_eq_ok_iff.mpr ⟨(same.map Prod.fst).nodup_iff.mp distinct, Text.sort_by_key distinct same⟩

end Registry

end ChangeCapture
