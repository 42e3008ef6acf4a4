import ChangeCapture.Proofs.Flow.Fallback
import ChangeCapture.Proofs.Flow.Repairable
import ChangeCapture.Proofs.Flow.Settled
import ChangeCapture.Proofs.Spec.Sample

namespace ChangeCapture

namespace Projection

open Repaired (Succeeds succeeds_bind succeeds_bind_iff succeeds_done succeeds_note not_succeeds_stop)

variable {registry : Registry} {specs : List Spec} {target : Option Text} {contents processor changed : Fields}
  {processors result : List Json} {id : Text}

section Processors

theorem succeeds_setProperty (name value : Text) (processor : Fields) : (setProperty name value processor).Succeeds :=
  ⟨_, outcome_setProperty name value processor⟩

theorem succeeds_choose (current : Json) (known : ∃ key, defaultKey registry specs target = .ok key) :
    (bindQuery.choose registry specs target processor current).Succeeds := by
  have rebound : (bindQuery.rebind registry specs target processor current).Succeeds := by
    obtain ⟨key, found⟩ := known
    unfold bindQuery.rebind
    rw [found]
    exact succeeds_note ..
  unfold bindQuery.choose
  split
  · split
    · exact succeeds_done _
    · exact rebound
  · exact rebound

theorem succeeds_bindQuery (known : ∃ key, defaultKey registry specs target = .ok key) (processor : Fields) :
    (bindQuery registry specs target processor).Succeeds := by
  apply succeeds_bind ⟨_, outcome_withProperties processor⟩
  intro processor _
  apply succeeds_bind (succeeds_choose _ known)
  intro chosen _
  dsimp only
  split
  · exact succeeds_done _
  · apply succeeds_bind (succeeds_setProperty ..)
    intro processor _
    apply succeeds_bind (succeeds_setProperty ..)
    intro processor _
    exact succeeds_done _

theorem succeeds_onProcessor {α : Type} {change : Fields → Projecting (α × Fields)} (chain : HasProcessors processors)
    (listed : id ∈ FlowTemplate.processorIds) (changes : ∀ processor, (change processor).Succeeds) :
    (onProcessor id change processors).Succeeds := by
  obtain ⟨processor, found⟩ := find?_of_chain chain listed
  unfold onProcessor
  rw [found]
  apply succeeds_bind (changes processor)
  intro changed _
  exact succeeds_done _

theorem hasProcessors_onProcessor {α : Type} {change : Fields → Projecting (α × Fields)} {value : α}
    (chain : HasProcessors processors) (made : (onProcessor id change processors).outcome = .ok (value, result))
    (keeps : ∀ processor changed, (change processor).outcome = .ok (value, changed) →
      changed.lookup ("identifier" : Text) = processor.lookup ("identifier" : Text)) : HasProcessors result := by
  obtain ⟨processor, changed, found, changes, rfl⟩ := onProcessor_eq_ok_iff.mp made
  have named := (keeps processor changed changes).trans (Part.id_of_find? found)
  rw [HasProcessors, Part.ids_replaceFirst named]
  exact chain

theorem succeeds_syncProcessors (filled : registry ≠ []) (known : ∃ key, defaultKey registry specs target = .ok key)
    (chain : HasProcessors processors) : (syncProcessors registry specs target processors).Succeeds := by
  have set : ∀ (name value : Text) (processor : Fields), Succeeds (do
      let processor ← setProperty name value processor
      pure ((), processor) : Projecting (Unit × Fields)) := by
    intro name value processor
    apply succeeds_bind (succeeds_setProperty ..)
    intro processor _
    exact succeeds_done _
  apply succeeds_bind (succeeds_onProcessor chain (by decide) (succeeds_bindQuery known))
  rintro ⟨key, bound⟩ made
  have chain : HasProcessors bound := by
    apply hasProcessors_onProcessor chain made
    intro processor changed binds
    obtain ⟨entry, -, rfl⟩ := bindQuery_eq_ok filled binds
    exact id_boundBy ..
  apply succeeds_bind (succeeds_onProcessor chain (by decide) (set _ _))
  rintro ⟨_, read⟩ made
  have chain : HasProcessors read := by
    apply hasProcessors_onProcessor chain made
    intro processor changed sets
    obtain ⟨_, put, same⟩ := Repaired.bind_eq_ok_iff.mp sets
    cases (outcome_setProperty ..).symm.trans put
    cases same
    exact id_putProperty ..
  apply succeeds_bind (succeeds_onProcessor chain (by decide) (set _ _))
  rintro ⟨_, written⟩ _
  exact succeeds_done _

end Processors

-- Where a default query is known, nothing but the topology and the services decides.
theorem succeeds_syncContents_iff (filled : registry ≠ []) (known : ∃ key, defaultKey registry specs target = .ok key) :
    (syncContents registry specs target contents).Succeeds ↔ Repairable contents := by
  constructor
  · intro succeeds
    obtain ⟨topology, made, rest⟩ := succeeds_bind_iff.mp succeeds
    obtain ⟨services, restored, -⟩ := succeeds_bind_iff.mp rest
    obtain ⟨-, -, rfl⟩ := topology_of_sync made
    exact ⟨exists_syncTopology_iff.mp ⟨_, made⟩, needed_of_topology.mp (exists_syncServices_iff.mp ⟨_, restored⟩)⟩
  · intro repairable
    apply succeeds_bind (exists_syncTopology_iff.mpr repairable.topology)
    intro topology made
    obtain ⟨chain, -, rfl⟩ := topology_of_sync made
    apply succeeds_bind (exists_syncServices_iff.mpr (needed_of_topology.mpr repairable.services))
    intro services _
    apply succeeds_bind ⟨_, rfl⟩
    intro service _
    dsimp only
    rw [processors_of_topology]
    apply succeeds_bind (succeeds_syncProcessors filled known chain)
    rintro ⟨key, processors⟩ _
    exact succeeds_done _

-- No flow yet, or one whose contents can be put right.
def Acceptable (flow : Json) : Prop :=
  flow = .null ∨ ∃ contents, flow.field? "flowContents" = some (.object contents) ∧ Repairable contents

theorem repairable_template : ∃ contents, FlowTemplate.flow.field? "flowContents" = some (.object contents) ∧
    Repairable contents := by
  refine ⟨_, rfl, .inr ⟨_, rfl, .refl _, .inr ⟨_, rfl, ?_⟩⟩, ?_⟩
  · exact hasSomeConnections_iff.mpr ⟨_, rfl⟩
  · exact ⟨_, rfl, by decide⟩

theorem acceptable_iff {flow : Json} : Acceptable flow ↔
    ∃ contents, (started flow).field? "flowContents" = some (.object contents) ∧ Repairable contents := by
  unfold Acceptable started
  split
  · rename_i none
    exact iff_of_true (.inl none) repairable_template
  · rename_i given
    exact or_iff_right given

theorem succeeds_project_iff (filled : registry ≠ []) (known : ∃ key, defaultKey registry specs target = .ok key)
    {flow : Json} : (project registry specs target flow).Succeeds ↔ Acceptable flow := by
  rw [acceptable_iff]
  unfold project
  rw [succeeds_bind_iff]
  simp only [outcome_startFlow, Except.ok.injEq, exists_eq_left']
  cases started flow with
  | object fields =>
    simp only [Json.field?, Fields.get?_eq_lookup]
    split
    · rename_i contents given
      simp only [given, Option.some.injEq, Json.object.injEq, exists_eq_left']
      rw [← succeeds_syncContents_iff filled known, succeeds_bind_iff]
      constructor
      · intro held
        obtain ⟨result, made, -⟩ := held
        exact ⟨result, made⟩
      · intro held
        obtain ⟨result, made⟩ := held
        exact ⟨result, made, succeeds_done _⟩
    · rename_i none
      refine iff_of_false (not_succeeds_stop _) ?_
      rintro ⟨contents, given, -⟩
      exact none contents given
  | null | bool | int | double | text | list => simp [Json.field?, drifted, not_succeeds_stop]

-- A registry with windows of a known length is projected into a flow exactly when there
-- is none yet or it can be put right, whatever table is asked for.
theorem returns_iff_acceptable (accepted : ∀ spec ∈ specs, spec.Accepted)
    (measurable : ∀ spec ∈ specs, ∀ window ∈ spec.windows.options, Window.Measurable window)
    (built : Registry.build specs = .ok registry) (filled : registry ≠ []) (target : Option Text) :
    ∃ projector, Projector.make registry specs target = some projector ∧
      ∀ flow, (∃ projected, (projector.run flow).1 = .ok projected) ↔ Acceptable flow := by
  have valid : ∀ spec ∈ specs, spec.Valid := fun spec member => (accepted spec member).valid
  have present : specs ≠ [] := by
    rintro rfl
    cases built
    exact filled rfl
  refine ⟨_, Projector.make_eq_some_iff.mpr ⟨filled, rfl⟩, fun flow => ?_⟩
  apply succeeds_project_iff filled
  apply (exists_defaultKey_iff valid present built).mpr
  intro spec fallback
  exact .inr (measurable spec fallback.mem)

def shuffledFlow : Json := .object [("flowContents", .object [
  ("processors", .list (FlowTemplate.processorIds.reverse.map fun id => .object [("identifier", .text id)])),
  ("connections", .list ((FlowTemplate.edges.drop 3).map FlowTemplate.connectionJson)),
  ("controllerServices", .list (FlowTemplate.serviceIds.tail.map fun id => .object [("identifier", .text id)]))])]

theorem returns_of_shuffled : ∃ registry projector, Registry.build [Spec.Sample.small] = .ok registry ∧
    Projector.make registry [Spec.Sample.small] none = some projector ∧
    (∃ projected, (projector.run shuffledFlow).1 = .ok projected) ∧
    ¬ ∃ projected, (projector.run (.object [("flowContents", .object [])])).1 = .ok projected := by
  have accepted : ∀ spec ∈ [Spec.Sample.small], spec.Accepted := by simpa using Spec.Sample.small_accepted
  have measurable : ∀ spec ∈ [Spec.Sample.small], ∀ window ∈ spec.windows.options, Window.Measurable window := by decide
  have built := Registry.build_of_window (show Spec.Sample.small.windows.options = ["5m"] from rfl)
  obtain ⟨projector, made, returns⟩ := returns_iff_acceptable accepted measurable built (List.cons_ne_nil _ _) none
  refine ⟨_, projector, built, made, (returns _).mpr (.inr ⟨_, rfl, ?_⟩), fun returned => ?_⟩
  · have chain : HasProcessors (FlowTemplate.processorIds.reverse.map fun id => .object [("identifier", .text id)]) := by
      rw [HasProcessors, List.map_map]
      exact (List.reverse_perm _).map _
    have links : HasSomeConnections ((FlowTemplate.edges.drop 3).map FlowTemplate.connectionJson) :=
      hasSomeConnections_iff.mpr ⟨_, rfl⟩
    exact ⟨.inr ⟨_, rfl, chain, .inr ⟨_, rfl, links⟩⟩, _, rfl, by decide⟩
  · rcases (returns _).mp returned with none | ⟨contents, given, repairable⟩
    · cases none
    · cases given
      obtain ⟨services, listed, -⟩ := repairable.services
      cases listed

end Projection

end ChangeCapture
