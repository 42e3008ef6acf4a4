import ChangeCapture.Proofs.Contract.Origin
import ChangeCapture.Proofs.Flow.Rebinding

namespace ChangeCapture.Contract

open Projection (HasProperty IsChosen IsFallback KeepsKey Settled started takenProcessors)

variable {specs : List Spec} {spec : Spec} {registry : Registry} {target : Option Text} {contents : Fields} {flow : Json}
  {key window : Text}

theorem property?_eq_text_iff {id name value : Text} : property? flow id name = some (.text value) ↔
    ∃ contents, flow.field? "flowContents" = some (.object contents) ∧
      HasProperty (Part.items (contents.lookup ("processors" : Text))) id name value := by
  constructor
  · intro held
    obtain ⟨inner, given, ofContents⟩ := Option.bind_eq_some_iff.mp held
    obtain ⟨processors, listed, ofProcessors⟩ := Option.bind_eq_some_iff.mp ofContents
    obtain ⟨fields, found, ofFields⟩ := Option.bind_eq_some_iff.mp ofProcessors
    obtain ⟨contents, rfl, there⟩ := Json.field?_eq_some_iff.mp listed
    obtain ⟨properties, own, set⟩ := Projection.lookup_properties_iff.mp ofFields
    exact ⟨contents, given, fields, properties, there.symm ▸ found, own, set⟩
  · rintro ⟨contents, given, fields, properties, found, own, set⟩
    cases listed : contents.lookup ("processors" : Text) with
    | none =>
      rw [listed] at found
      cases found
    | some processors =>
      rw [listed] at found
      have field : (Json.object contents).field? "processors" = some processors := listed
      simp [property?, given, field, found, Projection.properties_of_lookup own, set]

theorem not_hasProperty_template (shaped : SqlId.isShaped key) :
    ¬ HasProperty (FlowTemplate.processors.map Prod.snd) FlowTemplate.binding FlowTemplate.sqlIdProperty key := by
  rintro ⟨fields, properties, found, own, set⟩
  cases found
  cases own
  cases set
  exact absurd shaped (by decide)

theorem hasProperty_taken_iff (shaped : SqlId.isShaped key) (given : (started flow).field? "flowContents" = some (.object contents)) :
    HasProperty (takenProcessors contents) FlowTemplate.binding FlowTemplate.sqlIdProperty key ↔
      property? flow FlowTemplate.binding FlowTemplate.sqlIdProperty = some (.text key) := by
  rw [property?_eq_text_iff]
  by_cases none : flow = .null
  · subst none
    rw [started, if_pos rfl] at given
    cases given
    refine iff_of_false (not_hasProperty_template shaped) ?_
    rintro ⟨_, absent, -⟩
    cases absent
  · rw [started, if_neg none] at given
    simp only [given, Option.some.injEq, Json.object.injEq, exists_eq_left']
    unfold takenProcessors
    split
    · rename_i empty
      rw [empty]
      refine iff_of_false (not_hasProperty_template shaped) ?_
      rintro ⟨fields, properties, found, -⟩
      cases found
    · rfl

-- What a flow takes from the specification whose query it is bound to.
structure IsBoundTo (flow : Json) (key : Text) (spec : Spec) : Prop where
  key : property? flow FlowTemplate.binding FlowTemplate.sqlIdProperty = some (.text key)
  watermark : property? flow FlowTemplate.reader FlowTemplate.watermarkProperty = some (.text spec.table.watermark)
  index : property? flow FlowTemplate.binding FlowTemplate.indexProperty = some (.text spec.destination.index)
  idField : property? flow FlowTemplate.binding FlowTemplate.idFieldProperty = some (.text spec.table.primaryKey)

theorem isBoundTo_of_settled (distinct : (specs.map Spec.tableName).Nodup) (built : Registry.build specs = .ok registry)
    (given : flow.field? "flowContents" = some (.object contents)) (listed : spec ∈ specs)
    (option : window ∈ spec.windows.options) (settled : Settled registry specs (SqlId.make spec.tableName window) contents) :
    IsBoundTo flow (SqlId.make spec.tableName window) spec := by
  obtain ⟨processors, there, -, entry, own, found, ofTable, bound⟩ := settled.processors
  have member := (Registry.mem_of_build built).mpr ⟨spec, listed, window, option, rfl⟩
  have same := lookup_of_mem (Registry.keys_of_build built) member
  cases found.symm.trans same
  cases ofTable.symm.trans (Projection.lookup_of_spec distinct listed)
  exact ⟨property?_of_hasProperty given there bound.key, property?_of_hasProperty given there bound.watermark,
    property?_of_hasProperty given there bound.index, property?_of_hasProperty given there bound.idField⟩

theorem exists_chosen (valid : ∀ spec ∈ specs, spec.Valid)
    (measurable : ∀ spec ∈ specs, ∀ window ∈ spec.windows.options, Window.Measurable window) (present : specs ≠ [])
    (built : Registry.build specs = .ok registry) {processors : List Json} (chosen : IsChosen registry specs target processors key) :
    ∃ spec ∈ specs, ∃ window ∈ spec.windows.options, key = SqlId.make spec.tableName window ∧
      (¬ KeepsKey registry processors → IsFallback specs target spec ∧ spec.IsDefault window) := by
  rcases chosen with ⟨has, own⟩ | ⟨free, default⟩
  · obtain ⟨field, member, rfl⟩ := List.mem_map.mp (Registry.has_iff.mp has)
    obtain ⟨spec, listed, window, option, rfl⟩ := (Registry.mem_of_build built).mp member
    exact ⟨spec, listed, window, option, rfl, fun free => absurd ⟨_, has, own⟩ free⟩
  · obtain ⟨spec, -, -, fallback⟩ := Projection.exists_order valid present target
    rw [Projection.defaultKey_of_fallback valid built fallback, map_eq_ok_iff] at default
    obtain ⟨window, found, same⟩ := default
    have isDefault := (Spec.defaultWindow_eq_ok_iff (valid spec fallback.mem) (measurable spec fallback.mem)).mp found
    exact ⟨spec, fallback.mem, window, Spec.mem_of_defaultWindow (valid spec fallback.mem) found, same.symm,
      fun _ => ⟨fallback, isDefault⟩⟩

-- The binding of a projected flow. A query of the registry is kept. Otherwise the flow is bound
-- to the target's default query or, if no table is the target, to that of the first table by
-- name. Index, key and watermark are of the table of the query. The order of the specifications
-- and of their windows makes no difference to any run.
theorem binding_of_projection {projector : Projector} {projected : Projected} (accepted : ∀ spec ∈ specs, spec.Accepted)
    (measurable : ∀ spec ∈ specs, ∀ window ∈ spec.windows.options, Window.Measurable window)
    (distinct : (specs.map Spec.tableName).Nodup) (built : Registry.build specs = .ok registry)
    (made : Projector.make registry specs target = some projector) (run : (projector.run flow).1 = .ok projected) :
    (∃ spec ∈ specs, ∃ window ∈ spec.windows.options, projected.sqlId = SqlId.make spec.tableName window ∧
      IsBoundTo projected.flow projected.sqlId spec ∧
      (∀ key, property? flow FlowTemplate.binding FlowTemplate.sqlIdProperty = some (.text key) → registry.has key →
        projected.sqlId = key) ∧
      ((∀ key, property? flow FlowTemplate.binding FlowTemplate.sqlIdProperty = some (.text key) → ¬ registry.has key) →
        IsFallback specs (target.map Text.upper) spec ∧ spec.IsDefault window)) ∧
    ∀ others, Spec.ShuffledAll specs others → Registry.build others = .ok registry ∧
      ∃ other, Projector.make registry others target = some other ∧ ∀ flow,
        (other.run flow).1 = (projector.run flow).1 ∧ (other.run flow).2.repairs = (projector.run flow).2.repairs := by
  have valid : ∀ spec ∈ specs, spec.Valid := fun spec member => (accepted spec member).valid
  obtain ⟨filled, rfl⟩ := Projector.make_eq_some_iff.mp made
  have present : specs ≠ [] := by
    rintro rfl
    cases built
    exact filled rfl
  constructor
  · obtain ⟨contents, start, chosen⟩ := Projection.isChosen_of_project run
    have kept : ∀ key, registry.has key → (HasProperty (takenProcessors contents) FlowTemplate.binding FlowTemplate.sqlIdProperty key ↔
        property? flow FlowTemplate.binding FlowTemplate.sqlIdProperty = some (.text key)) := fun key has =>
      hasProperty_taken_iff (Registry.shaped_of_build built key (Registry.has_iff.mp has)) start
    obtain ⟨spec, listed, window, option, same, fallback⟩ := exists_chosen valid measurable present built chosen
    obtain ⟨result, given, settled⟩ := settled_of_project built filled run
    refine ⟨spec, listed, window, option, same, ?_, ?_, ?_⟩
    · rw [same] at settled ⊢
      exact isBoundTo_of_settled distinct built given listed option settled
    · intro key own has
      have held := (kept key has).mpr own
      rcases chosen with ⟨hasOther, other⟩ | ⟨free, -⟩
      · have again := (kept _ hasOther).mp other
        rw [own, Option.some.injEq, Json.text.injEq] at again
        exact again.symm
      · exact absurd ⟨key, has, held⟩ free
    · intro free
      rw [← Projection.isFallback_filter_iff valid]
      apply fallback
      rintro ⟨key, has, held⟩
      exact free key ((kept key has).mp held) has
  · intro others shuffled
    have builtOther := Registry.build_of_shuffled shuffled built
    have same := fun asked => Projection.project_congr
      (Projection.defaultKey_of_shuffled distinct shuffled valid measurable present built builtOther asked)
      (Projection.bindings_of_shuffled distinct shuffled)
    refine ⟨builtOther, _, Projector.make_eq_some_iff.mpr ⟨filled, rfl⟩, fun flow => ?_⟩
    simp only [Projector.run, same, and_self]

-- A table with two windows of five minutes, one of them with a zero in front, and a longer one
-- whose first digit is smaller.
def paced (options : List Text) : Spec where
  table := ⟨"Paced", "Sales", "ID", "CHANGED", none⟩
  windows := ⟨options, none⟩
  destination := ⟨"paced", "ID", none⟩
  columns := none
  capture := .standard

theorem paced_accepted : (paced ["10m", "5m", "05m"]).Accepted := by
  refine ⟨.mapping [
    (.text "table", .mapping [
      (.text "name", .text "Paced"), (.text "schema", .text "Sales"), (.text "primary_key", .text "ID"),
      (.text "cdc_key", .text "CHANGED")]),
    (.text "range", .mapping [(.text "options", .list [.text "10m", .text "5m", .text "05m"])]),
    (.text "elasticsearch", .mapping [(.text "index", .text "paced"), (.text "id_field", .text "ID")])], rfl⟩

theorem binding_of_paced : ∃ registry projector projected,
    Registry.build [paced ["10m", "5m", "05m"], Spec.Sample.items] = .ok registry ∧
      Projector.make registry [paced ["10m", "5m", "05m"], Spec.Sample.items] (some "paced") = some projector ∧
      (projector.run .null).1 = .ok projected ∧ projected.sqlId = ("oracle.cdc.paced.05m" : Text) ∧
      (∃ spec ∈ [paced ["10m", "5m", "05m"], Spec.Sample.items], ∃ window ∈ spec.windows.options,
        projected.sqlId = SqlId.make spec.tableName window ∧ IsBoundTo projected.flow projected.sqlId spec ∧
        IsFallback [paced ["10m", "5m", "05m"], Spec.Sample.items] (some "PACED") spec ∧ spec.IsDefault window) ∧
      Registry.build [Spec.Sample.items, paced ["5m", "05m", "10m"]] = .ok registry ∧
      ∃ other, Projector.make registry [Spec.Sample.items, paced ["5m", "05m", "10m"]] (some "paced") = some other ∧
        (other.run .null).1 = .ok projected := by
  have accepted : ∀ spec ∈ [paced ["10m", "5m", "05m"], Spec.Sample.items], spec.Accepted := by
    simpa using ⟨paced_accepted, Spec.Sample.items_accepted⟩
  have measurable : ∀ spec ∈ [paced ["10m", "5m", "05m"], Spec.Sample.items], ∀ window ∈ spec.windows.options,
      Window.Measurable window := by decide
  have distinct : ([paced ["10m", "5m", "05m"], Spec.Sample.items].map Spec.tableName).Nodup := by decide
  have returns : ((Registry.build [paced ["10m", "5m", "05m"], Spec.Sample.items]).toOption.bind fun registry =>
      (Projector.make registry [paced ["10m", "5m", "05m"], Spec.Sample.items] (some "paced")).bind fun projector =>
        (projector.run .null).1.toOption).any fun projected => projected.sqlId = ("oracle.cdc.paced.05m" : Text) := by
    decide +kernel
  have shuffled : Spec.ShuffledAll [paced ["10m", "5m", "05m"], Spec.Sample.items]
      [Spec.Sample.items, paced ["5m", "05m", "10m"]] := by
    have windows : (["10m", "5m", "05m"] : List Text).Perm ["5m", "05m", "10m"] := by decide
    exact ⟨_, .swap _ _ _, .cons (.windows (.refl _)) (.cons (.windows windows) .nil)⟩
  cases built : Registry.build [paced ["10m", "5m", "05m"], Spec.Sample.items] with
  | error fault => simp [built, Except.toOption] at returns
  | ok registry =>
    cases made : Projector.make registry [paced ["10m", "5m", "05m"], Spec.Sample.items] (some "paced") with
    | none => simp [built, made, Except.toOption] at returns
    | some projector =>
      simp only [built, made, Except.toOption, Option.bind_some] at returns
      cases run : (projector.run .null).1 with
      | error stop => simp [run] at returns
      | ok projected =>
        obtain ⟨⟨spec, listed, window, option, same, bound, -, fresh⟩, order⟩ :=
          binding_of_projection accepted measurable distinct built made run
        obtain ⟨builtOther, other, madeOther, runs⟩ := order _ shuffled
        obtain ⟨fallback, isDefault⟩ := fresh fun key own => (by cases own)
        have key : projected.sqlId = ("oracle.cdc.paced.05m" : Text) := by simpa [run] using returns
        exact ⟨registry, projector, projected, rfl, made, run, key, ⟨spec, listed, window, option, same, bound, fallback, isDefault⟩,
          builtOther, other, madeOther, (runs .null).1.trans run⟩

end ChangeCapture.Contract
