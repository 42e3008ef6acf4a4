import ChangeCapture.Proofs.Registry.Building
import ChangeCapture.Proofs.Spec.Sample

namespace ChangeCapture

namespace SqlId

variable {key other name window : Text}

theorem parse?_congr (same : key.withoutFinalBreak = other.withoutFinalBreak) : parse? key = parse? other := by
  unfold parse?
  rw [same]

theorem withoutFinalBreak_make (present : window ≠ []) :
    (make name window).withoutFinalBreak = make name window.withoutFinalBreak := Text.withoutFinalBreak_append present

theorem lineFeed_mem_lower (ascii : name.isAscii) (broken : .char '\n' ∈ name) : .char '\n' ∈ name.lower := by
  rw [Text.lower_of_ascii ascii]
  exact List.mem_map.mpr ⟨_, broken, by decide⟩

theorem lineFeed_mem_upper_iff (ascii : name.isAscii) : .char '\n' ∈ name.upper ↔ .char '\n' ∈ name := by
  rw [Text.upper_of_ascii ascii, List.mem_map]
  constructor
  · intro held
    obtain ⟨c, member, same⟩ := held
    have number := congrArg CodePoint.toNat same
    rw [CodePoint.toNat_upperOne (List.all_eq_true.mp ascii c member)] at number
    have own : c = .char '\n' := by
      apply CodePoint.toNat_injective
      change _ = 0x0A at number
      change _ = 0x0A
      split at number <;> omega
    rwa [own] at member
  · exact fun member => ⟨_, member, by decide⟩

theorem ne_nil_of_accepts (accepted : Window.accepts window) : window ≠ [] := by
  rintro rfl
  cases accepted

theorem accepts_withoutFinalBreak (accepted : Window.accepts window) :
    Window.accepts window.withoutFinalBreak ∧ .char '\n' ∉ window.withoutFinalBreak := by
  obtain ⟨digits, same, present, each⟩ := Window.isToken_iff.mp accepted
  have clean : .char '\n' ∉ window.withoutFinalBreak := by
    rw [same]
    intro member
    rcases List.mem_append.mp member with inside | unit
    · exact absurd (each _ inside) (by decide)
    · exact absurd (List.mem_singleton.mp unit) (by decide)
  refine ⟨?_, clean⟩
  rw [Window.accepts, Text.withoutFinalBreak_of_not_mem clean]
  exact accepted

-- The part of the key that the table is read from would have to be the whole name,
-- with its line feed.
theorem parse?_make_of_broken (accepted : Identifier.accepts name) (broken : .char '\n' ∈ name)
    (present : window ≠ []) : parse? (make name.upper window) = none := by
  have ascii := Identifier.ascii_of_accepts accepted
  have single : Text.ofString "." = [.char '.'] := rfl
  apply Option.eq_none_iff_forall_ne_some.mpr
  intro found decoded
  obtain ⟨part, -, -, -, -, parts, -, -, same⟩ := parse?_eq_some_iff.mp decoded
  rw [withoutFinalBreak_make present, make, Text.lower_upper ascii, single] at same
  simp only [List.append_assoc, List.singleton_append, List.append_cancel_left_eq] at same
  have clean : .char '.' ∉ part := fun member => absurd (List.all_eq_true.mp parts _ member) (by decide)
  have read := congrArg (List.takeWhile (· ≠ .char '.')) same
  rw [takeWhile_point (point_not_mem_lower accepted), takeWhile_point clean] at read
  exact absurd (List.all_eq_true.mp parts _ (read ▸ lineFeed_mem_lower ascii broken)) (by decide)

theorem parse?_make_of_accepts (accepted : Identifier.accepts name) (token : Window.accepts window) :
    parse? (make name.upper window) =
      if .char '\n' ∈ name then none else some (name.upper, window.withoutFinalBreak) := by
  have present := ne_nil_of_accepts token
  split
  · rename_i broken
    exact parse?_make_of_broken accepted broken present
  · rename_i oneLine
    obtain ⟨inner, clean⟩ := accepts_withoutFinalBreak token
    have same : (make name.upper window).withoutFinalBreak = (make name.upper window.withoutFinalBreak).withoutFinalBreak := by
      rw [withoutFinalBreak_make present, withoutFinalBreak_make (ne_nil_of_accepts inner),
        Text.withoutFinalBreak_of_not_mem clean]
    rw [parse?_congr same, parse?_make accepted oneLine inner clean]

theorem parse?_make_iff (accepted : Identifier.accepts name) (token : Window.accepts window) :
    parse? (make name.upper window) = some (name.upper, window) ↔ .char '\n' ∉ name ∧ .char '\n' ∉ window := by
  rw [parse?_make_of_accepts accepted token]
  split
  · rename_i broken
    simp [broken]
  · rename_i oneLine
    simp only [Option.some.injEq, Prod.mk.injEq, true_and, oneLine, not_false_eq_true]
    constructor
    · intro same
      rw [← same]
      exact (accepts_withoutFinalBreak token).2
    · exact Text.withoutFinalBreak_of_not_mem

end SqlId

namespace Registry

variable {spec : Spec} {specs : List Spec}

-- A key decodes to the table and the window that it was made of exactly when neither
-- ends in a line feed, which the checks of a specification let through.
theorem decoding_of_accepted (accepted : ∀ spec ∈ specs, spec.Accepted) :
    (∀ spec ∈ specs, ∀ window ∈ spec.windows.options,
      SqlId.parse? (SqlId.make spec.tableName window) =
          (if .char '\n' ∈ spec.table.name then none else some (spec.tableName, window.withoutFinalBreak)) ∧
        (SqlId.parse? (SqlId.make spec.tableName window) = some (spec.tableName, window) ↔
          .char '\n' ∉ spec.table.name ∧ .char '\n' ∉ window)) ∧
    ∀ registry, build specs = .ok registry → ∀ field ∈ registry,
      (SqlId.parse? field.1 = some (field.2.table, field.2.window) ↔
        .char '\n' ∉ field.2.table ∧ .char '\n' ∉ field.2.window) := by
  have each : ∀ spec ∈ specs, ∀ window ∈ spec.windows.options, Identifier.accepts spec.table.name ∧ Window.accepts window :=
    fun spec member window option => ⟨(accepted spec member).valid.name, (accepted spec member).valid.tokens window option⟩
  constructor
  · intro spec member window option
    obtain ⟨name, token⟩ := each spec member window option
    exact ⟨SqlId.parse?_make_of_accepts name token, SqlId.parse?_make_iff name token⟩
  · intro registry built field present
    obtain ⟨spec, member, window, option, rfl⟩ := (mem_of_build built).mp present
    obtain ⟨name, token⟩ := each spec member window option
    have upper := SqlId.lineFeed_mem_upper_iff (Identifier.ascii_of_accepts name)
    have decoded := SqlId.parse?_make_iff name token
    rwa [← upper] at decoded

theorem decoding_of_sample :
    SqlId.parse? (SqlId.make Spec.Sample.orders.tableName "60m") = some (Spec.Sample.orders.tableName, ("60m" : Text)) ∧
    ∃ registry, build [Spec.Sample.items] = .ok registry ∧
      ∀ field ∈ registry, SqlId.parse? field.1 = some (field.2.table, field.2.window) := by
  have ofOrders : ∀ spec ∈ [Spec.Sample.orders], spec.Accepted := by simpa using Spec.Sample.orders_accepted
  have ofItems : ∀ spec ∈ [Spec.Sample.items], spec.Accepted := by simpa using Spec.Sample.items_accepted
  obtain ⟨ofWindow, -⟩ := decoding_of_accepted ofOrders
  have decoded := (ofWindow Spec.Sample.orders (List.mem_cons_self ..) "60m" (List.mem_cons_self ..)).2
  refine ⟨decoded.mpr (by decide), ?_⟩
  obtain ⟨-, ofRegistry⟩ := decoding_of_accepted ofItems
  have built := build_of_window (show Spec.Sample.items.windows.options = ["5m"] from rfl)
  refine ⟨_, built, fun field member => ?_⟩
  have only := List.mem_singleton.mp member
  subst only
  exact (ofRegistry _ built _ member).mpr (by decide +kernel)

def namedDocument (table window : Text) : Document := .mapping [
  (.text "table", .mapping [
    (.text "name", .text table), (.text "schema", .text "S"), (.text "primary_key", .text "I"), (.text "cdc_key", .text "U")]),
  (.text "range", .mapping [(.text "options", .list [.text window])]),
  (.text "elasticsearch", .mapping [(.text "index", .text "t"), (.text "id_field", .text "I")])]

def named (table window : Text) : Spec :=
  { Spec.Sample.small with table := { Spec.Sample.small.table with name := table }, windows := ⟨[window], none⟩ }

-- The one key loses the line feed of its window, and the other is not decoded.
theorem undecoded_keys : (named "T" "5m\n").Accepted ∧ (named "T\n" "5m").Accepted ∧
    (∃ window ∈ (named "T" "5m\n").windows.options,
      SqlId.parse? (SqlId.make (named "T" "5m\n").tableName window) ≠ some ((named "T" "5m\n").tableName, window)) ∧
    ∃ window ∈ (named "T\n" "5m").windows.options,
      SqlId.parse? (SqlId.make (named "T\n" "5m").tableName window) ≠ some ((named "T\n" "5m").tableName, window) := by
  refine ⟨⟨namedDocument "T" "5m\n", rfl⟩, ⟨namedDocument "T\n" "5m", rfl⟩, ?_, ?_⟩
  · exact ⟨"5m\n", List.mem_singleton_self _, by decide⟩
  · exact ⟨"5m", List.mem_singleton_self _, by decide⟩

end Registry

end ChangeCapture
