import ChangeCapture.Proofs.Contract.Agreement
import ChangeCapture.Proofs.Contract.Projection

namespace ChangeCapture.Contract

open Projection (byTable IsLast)

variable {specs : List Spec} {registry contents : Fields} {key : Text}

def Prescribed (specs : List Spec) (key : Text) : Prop :=
  ∃ spec ∈ specs, ∃ window ∈ spec.windows.options, key = SqlId.make spec.tableName window

-- A key is decoded without its final line feed, so only what stands before that is
-- known to be a window of the specification that counts for the table.
theorem Agreement.prescribed (agreement : Agreement (byTable specs) registry contents) (member : key ∈ registry.map Prod.fst) :
    ∃ spec ∈ specs, IsLast specs spec ∧ ∃ window ∈ spec.windows.options,
      key.withoutFinalBreak = SqlId.make spec.tableName window := by
  obtain ⟨field, present, rfl⟩ := List.mem_map.mp member
  obtain ⟨entry, spec, -, found, agrees⟩ := agreement.entries field present
  obtain ⟨listed, name⟩ := Projection.spec_of_lookup found
  obtain ⟨last, -⟩ := Projection.lookup_eq_some_iff.mp found
  refine ⟨spec, listed, last, entry.window, agrees.window, ?_⟩
  rw [SqlId.withoutFinalBreak_of_parse? agrees.names, name]

theorem Agreement.present (agreement : Agreement (byTable specs) registry contents) {spec : Spec} (last : IsLast specs spec)
    {window : Text} (option : window ∈ spec.windows.options) : SqlId.make spec.tableName window ∈ registry.map Prod.fst := by
  have found := Projection.lookup_eq_some_iff.mpr ⟨last, rfl⟩
  exact agreement.covered (spec.tableName, spec) (Projection.mem_byTable.mpr found) window option

-- Where the verifier finds nothing, the registry has every key of the specifications
-- that count for their tables. A key that it has besides is one of these before a line
-- feed. Under distinct tables all specifications count.
theorem keys_of_no_violation {document flow : Json} (verified : violations specs document flow = .ok []) :
    ∃ registry, document = .object registry ∧
      (∀ spec, IsLast specs spec → ∀ window ∈ spec.windows.options,
        SqlId.make spec.tableName window ∈ registry.map Prod.fst) ∧
      (∀ key ∈ registry.map Prod.fst, ∃ spec ∈ specs, IsLast specs spec ∧ ∃ window ∈ spec.windows.options,
        key = SqlId.make spec.tableName window ∨ key = SqlId.make spec.tableName window ++ [.char '\n']) ∧
      ((specs.map Spec.tableName).Nodup → (∀ key ∈ registry.map Prod.fst, key.getLast? ≠ some (.char '\n')) →
        ∀ key, key ∈ registry.map Prod.fst ↔ Prescribed specs key) := by
  obtain ⟨registry, contents, isRegistry, -, agreement⟩ := violations_eq_nil_iff.mp verified
  refine ⟨registry, isRegistry, fun spec last window option => agreement.present last option, ?_, ?_⟩
  · intro key member
    obtain ⟨spec, listed, last, window, option, same⟩ := agreement.prescribed member
    refine ⟨spec, listed, last, window, option, ?_⟩
    rw [← same]
    exact Text.withoutFinalBreak_cases key
  · intro distinct unbroken key
    constructor
    · intro member
      obtain ⟨spec, listed, -, window, option, same⟩ := agreement.prescribed member
      refine ⟨spec, listed, window, option, ?_⟩
      rw [← same, Text.withoutFinalBreak, if_neg (unbroken key member)]
    · intro prescribed
      obtain ⟨spec, listed, window, option, rfl⟩ := prescribed
      have found := Projection.lookup_of_spec distinct listed
      exact agreement.present (Projection.lookup_eq_some_iff.mp found).1 option

theorem keys_of_sample : ∃ document flow, violations [Spec.Sample.orders, Spec.Sample.items] document flow = .ok [] ∧
    ([Spec.Sample.orders, Spec.Sample.items].map Spec.tableName).Nodup ∧
    ∃ registry, document = .object registry ∧ (∀ key ∈ registry.map Prod.fst, key.getLast? ≠ some (.char '\n')) ∧
      ∀ key, key ∈ registry.map Prod.fst ↔ Prescribed [Spec.Sample.orders, Spec.Sample.items] key := by
  let registry := ((Registry.build [Spec.Sample.orders, Spec.Sample.items]).toOption).getD []
  let flow := ((Projection.project registry [Spec.Sample.orders, Spec.Sample.items] none .null).outcome.toOption.map
    Projected.flow).getD .null
  have distinct : ([Spec.Sample.orders, Spec.Sample.items].map Spec.tableName).Nodup := by decide
  have verified : violations [Spec.Sample.orders, Spec.Sample.items] registry.toJson flow = .ok [] := by decide +kernel
  have unbroken : ∀ key ∈ (registry.sorted.map fun item => (item.1, Json.object item.2.toFields)).map Prod.fst,
      key.getLast? ≠ some (.char '\n') := by decide +kernel
  obtain ⟨fields, same, -, -, exact⟩ := keys_of_no_violation verified
  cases same
  exact ⟨registry.toJson, flow, verified, distinct, _, rfl, unbroken, exact distinct unbroken⟩

-- The windows of the earlier of two specifications of one table are not asked for,
-- and a key may stand a second time before a line feed.
theorem inexact_keys : (∀ spec ∈ [Spec.Sample.small, Spec.Sample.rival], spec.Accepted) ∧
    (∃ registry flow, violations [Spec.Sample.small, Spec.Sample.rival] (.object registry) flow = .ok [] ∧
      ∃ key, Prescribed [Spec.Sample.small, Spec.Sample.rival] key ∧ key ∉ registry.map Prod.fst) ∧
    ∃ registry flow, violations [Spec.Sample.small] (.object registry) flow = .ok [] ∧
      ∃ key ∈ registry.map Prod.fst, ¬ Prescribed [Spec.Sample.small] key := by
  let later : Registry := [Registry.item Spec.Sample.rival "60m"]
  let twice : Registry := [Registry.item Spec.Sample.small "5m", ("oracle.cdc.t.5m\n", (Registry.item Spec.Sample.small "5m").2)]
  let flow (specs : List Spec) (registry : Registry) : Json :=
    ((Projection.project registry specs none .null).outcome.toOption.map Projected.flow).getD .null
  refine ⟨Spec.Sample.rivals_accepted, ?_, ?_⟩
  · refine ⟨documentFields later, flow [Spec.Sample.rival] later, by decide +kernel, "oracle.cdc.t.5m", ?_, by decide +kernel⟩
    exact ⟨Spec.Sample.small, List.mem_cons_self .., "5m", List.mem_cons_self .., by decide +kernel⟩
  · refine ⟨documentFields twice, flow [Spec.Sample.small] twice, by decide +kernel, "oracle.cdc.t.5m\n", by decide +kernel, ?_⟩
    intro prescribed
    obtain ⟨spec, listed, window, option, same⟩ := prescribed
    rw [List.mem_singleton] at listed
    subst listed
    rw [Spec.Sample.small, List.mem_singleton] at option
    subst option
    exact absurd same (by decide +kernel)

end ChangeCapture.Contract
