import ChangeCapture.Proofs.Contract.Stability
import ChangeCapture.Proofs.Flow.Stops

namespace ChangeCapture.Contract

open Projection (AtMostDrifts Unprojectable)

variable {specs : List Spec} {registry : Registry} {document flow : Json} {items : List Json}

theorem exists_readConnections_iff : (∃ read, readConnections items = .ok read) ↔
    ∀ item ∈ items, ¬ Part.hasCollectionId item := by
  induction items with
  | nil => simp [readConnections]
  | cons item rest ih =>
    rw [List.forall_mem_cons, ← ih]
    cases item with
    | object fields =>
      simp only [readConnections, Part.hasCollectionId, Part.id?, Fields.get?_eq_lookup]
      rcases fields.lookup ("identifier" : Text) with - | id
      · cases readConnections rest <;> simp
      · cases id with
        | list | object => simp
        | text name =>
          cases readConnections rest with
          | error stop => simp
          | ok read =>
            simp only [Option.getD_some]
            split <;> simp
        | null | bool | int | double => cases readConnections rest <;> simp
    | null | bool | int | double | text | list => simp [readConnections, Part.hasCollectionId, Part.id?]

def HasCollectionId (flow : Json) : Prop :=
  ∃ contents, flow.field? "flowContents" = some (.object contents) ∧
    ∃ connection ∈ Part.items (contents.lookup ("connections" : Text)), Part.hasCollectionId connection

theorem exists_violations_iff : (∃ found, violations specs document flow = .ok found) ↔ ¬ HasCollectionId flow := by
  have mapped : ∀ {α β : Type} {first : Except CollectionId α} {change : α → β},
      (∃ found, first.map change = .ok found) ↔ ∃ found, first = .ok found := by
    intro α β first change
    cases first <;> simp [Except.map]
  simp only [violations, mapped, checkFlow, HasCollectionId]
  split
  · rename_i contents given
    simp only [mapped, checkTopology, checkConnections, exists_readConnections_iff, Fields.get?_eq_lookup, given,
      Option.some.injEq, Json.object.injEq, exists_eq_left', not_exists, not_and]
  · rename_i none
    simp only [Except.ok.injEq, exists_eq', true_iff]
    rintro ⟨contents, given, -⟩
    exact none contents given

-- Every run on a flow ends with a flow or with drift and every verification with a list of
-- violations, except for what is said here. Which collections stand where is all that the
-- verifier depends on; a projection comes to them in the order of the connections.
theorem failures_of_build (present : specs ≠ []) (accepted : ∀ spec ∈ specs, spec.Accepted)
    (built : Registry.build specs = .ok registry) (target : Option Text) :
    ∃ projector, Projector.make registry specs target = some projector ∧ ∀ flow : Json,
      (AtMostDrifts (projector.run flow).1 ↔ ¬ Unprojectable registry specs (target.map Text.upper) flow) ∧
      ((∃ found, violations specs registry.toJson flow = .ok found) ↔ ¬ HasCollectionId flow) := by
  have valid : ∀ spec ∈ specs, spec.Valid := fun spec member => (accepted spec member).valid
  have filled := registry_ne_nil present valid built
  refine ⟨_, Projector.make_eq_some_iff.mpr ⟨filled, rfl⟩, fun flow => ⟨?_, exists_violations_iff⟩⟩
  have same : Unprojectable registry specs ((target.filter fun name => !name.isEmpty).map Text.upper) flow ↔
      Unprojectable registry specs (target.map Text.upper) flow := by
    simp only [Unprojectable, Projection.isFallback_filter_iff valid]
  exact (Projection.atMostDrifts_project_of_build valid present built).trans (not_congr same)

theorem failures_of_sample : ∃ registry projector, Registry.build [Spec.Sample.small] = .ok registry ∧
    Projector.make registry [Spec.Sample.small] none = some projector ∧ AtMostDrifts (projector.run .null).1 ∧
    ∃ found, violations [Spec.Sample.small] registry.toJson .null = .ok found := by
  have accepted : ∀ spec ∈ [Spec.Sample.small], spec.Accepted := by simpa using Spec.Sample.small_accepted
  have built := Registry.build_of_window (show Spec.Sample.small.windows.options = ["5m"] from rfl)
  obtain ⟨projector, made, ends⟩ := failures_of_build (List.cons_ne_nil _ _) accepted built none
  obtain ⟨projects, verifies⟩ := ends .null
  refine ⟨_, projector, built, made, projects.mpr ?_, verifies.mpr ?_⟩
  · rintro ⟨contents, given, blocked | ⟨-, -, spec, fallback, unknown⟩⟩
    · cases given
      exact absurd blocked.hasCollectionId (by decide)
    · have same := List.mem_singleton.mp fallback.mem
      subst same
      exact unknown (.inr (by decide))
  · rintro ⟨contents, given, -⟩
    cases given

def tangledFlow : Json := .object [("flowContents", .object [
  ("processors", .list (FlowTemplate.processorIds.map fun id => .object [("identifier", .text id)])),
  ("connections", .list [.object [("identifier", .list [])]])])]

def brokenDocument : Document := .mapping [
  (.text "table", .mapping [
    (.text "name", .text "T"), (.text "schema", .text "S"), (.text "primary_key", .text "I"), (.text "cdc_key", .text "U")]),
  (.text "range", .mapping [(.text "options", .list [.text "5m\n"])]),
  (.text "elasticsearch", .mapping [(.text "index", .text "t"), (.text "id_field", .text "I")])]

def broken : Spec := { Spec.Sample.small with windows := ⟨["5m\n"], none⟩ }

-- The list is looked up in a table of names, and of the window the line feed is taken for
-- its unit.
theorem undocumented_failures : (∀ spec ∈ [Spec.Sample.small, broken], spec.Accepted) ∧
    (∃ registry projector, Registry.build [Spec.Sample.small] = .ok registry ∧
      Projector.make registry [Spec.Sample.small] none = some projector ∧ ¬ AtMostDrifts (projector.run tangledFlow).1 ∧
      ∀ found, violations [Spec.Sample.small] registry.toJson tangledFlow ≠ .ok found) ∧
    ∃ registry projector, Registry.build [broken] = .ok registry ∧ Projector.make registry [broken] none = some projector ∧
      ¬ AtMostDrifts (projector.run .null).1 := by
  have accepted : broken.Accepted := ⟨brokenDocument, rfl⟩
  have built := Registry.build_of_window (show Spec.Sample.small.windows.options = ["5m"] from rfl)
  have builtBroken := Registry.build_of_window (show broken.windows.options = ["5m\n"] from rfl)
  refine ⟨by simpa using ⟨Spec.Sample.small_accepted, accepted⟩, ?_, ?_⟩
  · have unread : violations [Spec.Sample.small] (Registry.toJson [Registry.item Spec.Sample.small "5m"]) tangledFlow =
        .error ⟨"list"⟩ := by decide +kernel
    refine ⟨_, ⟨_, [Spec.Sample.small], none, []⟩, built, rfl, by decide +kernel, fun found verified => ?_⟩
    cases unread.symm.trans verified
  · exact ⟨_, ⟨_, [broken], none, []⟩, builtBroken, rfl, by decide +kernel⟩

end ChangeCapture.Contract
