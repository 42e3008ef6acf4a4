import ChangeCapture.Proofs.Contract.Checks
import ChangeCapture.Proofs.Query.Rendering
import ChangeCapture.Proofs.Spec.Sample

namespace ChangeCapture

-- The name that a query asks the database for: a reserved word is taken in upper case,
-- every other name as it is written.
def canonicalName (name : Text) : Text := if reservedWords.contains name.upper then name.upper else name

namespace Query

variable {spec other : Spec} {name word : Text} {names others : List Text} {rest tail : Text}

def isMark (c : CodePoint) : Bool := c = ' ' || c = ',' || c = '.'

def IsWord (word : Text) : Prop := ∀ c ∈ word, isMark c = false

theorem isWord_quoteName (accepted : Identifier.accepts name) : IsWord (quoteName name) := by
  intro c member
  cases marked : isMark c with
  | false => rfl
  | true =>
    simp only [isMark, Bool.or_eq_true, decide_eq_true_eq] at marked
    rcases parts_of_quoteName accepted c member with part | rfl | rfl
    · rcases marked with (rfl | rfl) | rfl <;> cases part
    · simp at marked
    · simp at marked

theorem head_of_accepts (accepted : Identifier.accepts name) : ∃ first later, name = first :: later ∧ Identifier.isNamePart first := by
  obtain ⟨first, later, same, letter, -⟩ := Identifier.isName_iff.mp (Identifier.isName_of_accepts accepted)
  have part := Identifier.isNamePart_of_isNameStart letter
  rcases Text.withoutFinalBreak_cases name with whole | broken
  · exact ⟨first, later, whole.trans same, part⟩
  · exact ⟨first, later ++ [.char '\n'], by rw [broken, same, List.cons_append], part⟩

theorem quoteName_eq_iff {other : Text} (accepted : Identifier.accepts name) (accepts : Identifier.accepts other) :
    quoteName name = quoteName other ↔ canonicalName name = canonicalName other := by
  have unquoted : ∀ {one : Text}, Identifier.accepts one → ∀ word : Text, .char '"' :: word ≠ one := by
    intro one accepted word same
    obtain ⟨first, later, rfl, part⟩ := head_of_accepts accepted
    obtain ⟨rfl, -⟩ := List.cons.inj same
    cases part
  have spelled : ∀ {one : Text}, Identifier.accepts one → one.upper.upper = one.upper := fun accepted =>
    Text.upper_upper (Identifier.ascii_of_accepts accepted)
  unfold quoteName canonicalName
  split
  · rename_i reserved
    split
    · simp [Text.ofString]
    · rename_i free
      constructor
      · intro same
        exact absurd same (unquoted accepts _)
      · intro same
        rw [← same, spelled accepted] at free
        exact absurd reserved free
  · rename_i free
    split
    · rename_i reserved
      constructor
      · intro same
        exact absurd same.symm (unquoted accepted _)
      · intro same
        rw [same, spelled accepts] at free
        exact absurd reserved free
    · rfl

-- A list of words is read off its line again: after a word a comma goes on and a blank ends it.
theorem joined_eq_iff (words : ∀ word ∈ names, IsWord word) (ofOthers : ∀ word ∈ others, IsWord word)
    (present : names ≠ []) (given : others ≠ []) :
    Text.joined ", " names ++ .char ' ' :: rest = Text.joined ", " others ++ .char ' ' :: tail ↔ names = others ∧ rest = tail := by
  refine ⟨fun same => ?_, by rintro ⟨rfl, rfl⟩; rfl⟩
  induction names generalizing others with
  | nil => exact absurd rfl present
  | cons first names ih =>
    obtain ⟨one, others, rfl⟩ := List.exists_cons_of_ne_nil given
    obtain ⟨ofFirst, later⟩ := List.forall_mem_cons.mp words
    obtain ⟨ofOne, further⟩ := List.forall_mem_cons.mp ofOthers
    cases names with
    | nil =>
      cases others with
      | nil =>
        obtain ⟨rfl, ended⟩ := (Text.append_eq_append_iff_of_marks ofFirst ofOne rfl rfl).mp same
        exact ⟨rfl, List.tail_eq_of_cons_eq ended⟩
      | cons two others =>
        rw [Text.joined_cons_cons, List.append_assoc] at same
        obtain ⟨-, ended⟩ := (Text.append_eq_append_iff_of_marks ofFirst ofOne rfl rfl).mp same
        cases ended
    | cons second names =>
      cases others with
      | nil =>
        rw [Text.joined_cons_cons, List.append_assoc] at same
        obtain ⟨-, ended⟩ := (Text.append_eq_append_iff_of_marks ofFirst ofOne rfl rfl).mp same
        cases ended
      | cons two others =>
        rw [Text.joined_cons_cons, Text.joined_cons_cons, List.append_assoc, List.append_assoc, List.append_assoc, List.append_assoc] at same
        obtain ⟨rfl, ended⟩ := (Text.append_eq_append_iff_of_marks ofFirst ofOne rfl rfl).mp same
        obtain ⟨listed, rest⟩ := ih later further (List.cons_ne_nil second names) (List.cons_ne_nil two others)
          (List.append_cancel_left ended)
        exact ⟨by rw [listed], rest⟩

def listed (spec : Spec) : List Text :=
  match spec.columnNames with
  | some (first :: rest) => (first :: rest).map quoteName
  | _ => [Text.ofString "*"]

theorem listing_eq_joined (spec : Spec) : listing spec = Text.joined ", " (listed spec) := by
  unfold listing listed
  cases spec.columnNames with
  | none => rfl
  | some names => cases names <;> rfl

theorem listed_cases (valid : spec.Valid) : spec.columnNames = none ∧ listed spec = [Text.ofString "*"] ∨
    ∃ names, spec.columnNames = some names ∧ names ≠ [] ∧ (∀ name ∈ names, Identifier.accepts name) ∧
      listed spec = names.map quoteName := by
  cases given : spec.columns with
  | none =>
    have none : spec.columnNames = none := by rw [Spec.columnNames, given, Option.map_none]
    exact .inl ⟨none, by rw [listed, none]⟩
  | some columns =>
    obtain ⟨present, each⟩ := valid.columns columns given
    obtain ⟨first, later, rfl⟩ := List.exists_cons_of_ne_nil present
    have some : spec.columnNames = some (first.name :: later.map Column.name) := by
      rw [Spec.columnNames, given, Option.map_some, List.map_cons]
    refine .inr ⟨_, some, List.cons_ne_nil _ _, ?_, by rw [listed, some]⟩
    rw [← List.map_cons]
    intro name member
    obtain ⟨column, there, rfl⟩ := List.mem_map.mp member
    exact each column there

theorem listed_ne_nil (valid : spec.Valid) : listed spec ≠ [] := by
  rcases listed_cases valid with ⟨-, same⟩ | ⟨names, -, present, -, same⟩
  · rw [same]
    exact List.cons_ne_nil _ _
  · rw [same]
    exact mt List.map_eq_nil_iff.mp present

theorem isWord_of_listed (valid : spec.Valid) : ∀ word ∈ listed spec, IsWord word := by
  rcases listed_cases valid with ⟨-, same⟩ | ⟨names, -, -, accepted, same⟩
  · rw [same, List.forall_mem_singleton]
    exact List.forall_mem_singleton.mpr rfl
  · rw [same]
    intro word member
    obtain ⟨name, there, rfl⟩ := List.mem_map.mp member
    exact isWord_quoteName (accepted name there)

theorem quoteName_ne_star (accepted : Identifier.accepts name) : quoteName name ≠ Text.ofString "*" := by
  rcases quoteName_cases name with ⟨-, quoted⟩ | same
  · rw [quoted]
    intro star
    cases List.head_eq_of_cons_eq star
  · obtain ⟨first, later, rfl, part⟩ := head_of_accepts accepted
    rw [same]
    intro star
    cases List.head_eq_of_cons_eq star
    cases part

theorem map_quoteName_eq_iff (accepted : ∀ name ∈ names, Identifier.accepts name)
    (accepts : ∀ name ∈ others, Identifier.accepts name) :
    names.map quoteName = others.map quoteName ↔ names.map canonicalName = others.map canonicalName := by
  induction names generalizing others with
  | nil => cases others <;> simp
  | cons first names ih =>
    cases others with
    | nil => simp
    | cons one others =>
      obtain ⟨ofFirst, later⟩ := List.forall_mem_cons.mp accepted
      obtain ⟨ofOne, rest⟩ := List.forall_mem_cons.mp accepts
      rw [List.map_cons, List.map_cons, List.map_cons, List.map_cons, List.cons.injEq, List.cons.injEq,
        quoteName_eq_iff ofFirst ofOne, ih later rest]

theorem listed_eq_iff (valid : spec.Valid) (ofOther : other.Valid) : listed spec = listed other ↔
    spec.columnNames.map (List.map canonicalName) = other.columnNames.map (List.map canonicalName) := by
  have noStar : ∀ {names : List Text}, (∀ name ∈ names, Identifier.accepts name) → names.map quoteName ≠ [Text.ofString "*"] := by
    intro names accepted star
    obtain ⟨name, rfl, same⟩ := List.map_eq_singleton_iff.mp star
    exact quoteName_ne_star (accepted name (List.mem_singleton_self _)) same
  rcases listed_cases valid with ⟨none, star⟩ | ⟨names, some, -, accepted, quoted⟩
  · rcases listed_cases ofOther with ⟨noOther, same⟩ | ⟨others, some, -, accepts, same⟩
    · rw [none, noOther, star, same]
      simp
    · rw [none, some, star, same]
      simpa using (noStar accepts).symm
  · rcases listed_cases ofOther with ⟨none, same⟩ | ⟨others, ofOthers, -, accepts, same⟩
    · rw [none, some, quoted, same]
      simpa using noStar accepted
    · rw [some, ofOthers, quoted, same, Option.map_some, Option.map_some, Option.some.injEq]
      exact map_quoteName_eq_iff accepted accepts

-- Two specifications of one query: the same columns in the same order or none at all, and the
-- same schema, table and watermark, up to the spelling of reserved words.
structure IsSame (spec other : Spec) : Prop where
  columns : spec.columnNames.map (List.map canonicalName) = other.columnNames.map (List.map canonicalName)
  schema : canonicalName spec.table.schema = canonicalName other.table.schema
  table : canonicalName spec.tableName = canonicalName other.tableName
  watermark : canonicalName spec.table.watermark = canonicalName other.table.watermark

theorem render_eq_iff (valid : spec.Valid) (ofOther : other.Valid) : (ofSpec spec).render = (ofSpec other).render ↔ IsSame spec other := by
  have ofTable : Identifier.accepts spec.tableName := Identifier.accepts_upper valid.name
  have ofTables : Identifier.accepts other.tableName := Identifier.accepts_upper ofOther.name
  simp only [render_ofSpec, List.append_assoc, listing_eq_joined]
  constructor
  · intro same
    obtain ⟨columns, same⟩ := (joined_eq_iff (isWord_of_listed valid) (isWord_of_listed ofOther) (listed_ne_nil valid)
      (listed_ne_nil ofOther)).mp (List.append_cancel_left same)
    obtain ⟨schema, same⟩ := (Text.append_eq_append_iff_of_marks (isWord_quoteName valid.schema) (isWord_quoteName ofOther.schema) rfl rfl).mp
      (List.append_cancel_left same)
    obtain ⟨table, same⟩ := (Text.append_eq_append_iff_of_marks (isWord_quoteName ofTable) (isWord_quoteName ofTables) rfl rfl).mp
      (List.append_cancel_left same)
    obtain ⟨watermark, -⟩ := (Text.append_eq_append_iff_of_marks (isWord_quoteName valid.watermark)
      (isWord_quoteName ofOther.watermark) rfl rfl).mp
      (List.append_cancel_left same)
    exact ⟨(listed_eq_iff valid ofOther).mp columns, (quoteName_eq_iff valid.schema ofOther.schema).mp schema,
      (quoteName_eq_iff ofTable ofTables).mp table, (quoteName_eq_iff valid.watermark ofOther.watermark).mp watermark⟩
  · intro same
    rw [(listed_eq_iff valid ofOther).mpr same.columns, (quoteName_eq_iff valid.schema ofOther.schema).mpr same.schema,
      (quoteName_eq_iff ofTable ofTables).mpr same.table,
      (quoteName_eq_iff valid.watermark ofOther.watermark).mpr same.watermark]

theorem differs_mem_checkLookup_iff {contents service : Fields} {entries : Contract.Entries} {key sql : Text} {entry : Entry}
    (distinct : (entries.map Prod.fst).Nodup)
    (found : Contract.partIn (Fields.get? contents "controllerServices") FlowTemplate.lookupService = some service)
    (listed : (key, entry) ∈ entries) (held : (Part.properties service).lookup key = some (.text sql)) :
    (⟨.i5, key, "lookup service SQL differs from registry"⟩ : Violation) ∈ Contract.checkLookup contents entries ↔
      sql ≠ entry.sql := by
  simp only [Contract.checkLookup, found, List.mem_append, List.mem_filterMap, List.mem_map, Contract.mem_inOrder]
  constructor
  · rintro (⟨⟨name, other⟩, member, told⟩ | ⟨name, -, told⟩)
    · dsimp only at told
      split at told
      · have missing : Text.ofString "missing from lookup service" = Text.ofString "lookup service SQL differs from registry" :=
          congrArg Violation.message (Option.some.inj told)
        exact absurd missing (by decide)
      · rename_i value there
        split at told
        · cases told
        · rename_i differs
          obtain rfl : name = key := congrArg Violation.subject (Option.some.inj told)
          obtain rfl := Option.some.inj ((lookup_of_mem distinct listed).symm.trans (lookup_of_mem distinct member))
          obtain rfl := Option.some.inj (held.symm.trans there)
          exact mt (congrArg Json.text) differs
    · have strange : Text.ofString "lookup service holds a sql_id that is not in the registry" =
          Text.ofString "lookup service SQL differs from registry" := congrArg Violation.message told
      exact absurd strange (by decide)
  · intro differs
    refine .inl ⟨(key, entry), listed, ?_⟩
    simp [held, differs]

theorem updated_mem_syncLookup_iff {registry : Registry} {service : Fields} {key sql : Text} {entry : Entry}
    (distinct : (registry.map Prod.fst).Nodup) (listed : (key, entry) ∈ registry)
    (held : (Part.properties service).lookup key = some (.text sql)) :
    (⟨.lookupUpdated, key, "query text replaced with registry SQL"⟩ : Repair) ∈ (Projection.syncLookup registry service).repairs ↔
      sql ≠ entry.sql := by
  simp only [Projection.syncLookup, Projection.removals, List.mem_append, List.mem_filterMap, List.mem_map]
  constructor
  · rintro (⟨name, -, told⟩ | ⟨⟨name, other⟩, member, told⟩)
    · have removed := congrArg Repair.kind told
      cases removed
    · unfold Projection.lookupRepair? at told
      split at told
      · have added := congrArg Repair.kind (Option.some.inj told)
        cases added
      · rename_i value there
        split at told
        · cases told
        · rename_i differs
          obtain rfl : name = key := congrArg Repair.target (Option.some.inj told)
          obtain rfl := Option.some.inj ((lookup_of_mem distinct listed).symm.trans (lookup_of_mem distinct member))
          obtain rfl := Option.some.inj (held.symm.trans there)
          exact mt (congrArg Json.text) differs
  · intro differs
    refine .inr ⟨(key, entry), listed, ?_⟩
    simp [Projection.lookupRepair?, held, differs]

-- Windows of two specifications have one query just when the specifications ask for the same:
-- every change of a column, the schema, the table or the watermark, a reserved word's letters
-- aside, is seen where a look-up that holds the old query is compared with a registry that has
-- the new one.
theorem renders_alike_iff (accepted : spec.Accepted) (ofOther : other.Accepted) {window later : Text}
    (option : window ∈ spec.windows.options) (ofOthers : later ∈ other.windows.options) :
    ∃ old new, renderWindow spec window = .ok old ∧ renderWindow other later = .ok new ∧ (old = new ↔ IsSame spec other) ∧
      ∀ (key : Text) (service : Fields) (entry : Entry), (Part.properties service).lookup key = some (.text old) → entry.sql = new →
        (∀ (contents : Fields) (entries : Contract.Entries), (entries.map Prod.fst).Nodup → (key, entry) ∈ entries →
          Contract.partIn (Fields.get? contents "controllerServices") FlowTemplate.lookupService = some service →
          ((⟨.i5, key, "lookup service SQL differs from registry"⟩ : Violation) ∈ Contract.checkLookup contents entries ↔
            ¬ IsSame spec other)) ∧
        ∀ registry : Registry, (registry.map Prod.fst).Nodup → (key, entry) ∈ registry →
          ((⟨.lookupUpdated, key, "query text replaced with registry SQL"⟩ : Repair) ∈
            (Projection.syncLookup registry service).repairs ↔ ¬ IsSame spec other) := by
  have alike := render_eq_iff accepted.valid ofOther.valid
  refine ⟨_, _, renderWindow_eq_ok option, renderWindow_eq_ok ofOthers, alike, ?_⟩
  intro key service entry held new
  refine ⟨fun contents entries distinct listed found => ?_, fun registry distinct listed => ?_⟩
  · rw [differs_mem_checkLookup_iff distinct found listed held, new, ← alike]
  · rw [updated_mem_syncLookup_iff distinct listed held, new, ← alike]

def spelledOrders : Spec where
  table := ⟨"ORDER", "Sales", "Id", "DATE", none⟩
  windows := ⟨["15m"], none⟩
  destination := ⟨"orders", "Id", none⟩
  columns := none
  capture := .standard

theorem spelledOrders_accepted : spelledOrders.Accepted := ⟨.mapping [
  (.text "table", .mapping [
    (.text "name", .text "ORDER"), (.text "schema", .text "Sales"), (.text "primary_key", .text "Id"),
    (.text "cdc_key", .text "DATE")]),
  (.text "range", .mapping [(.text "options", .list [.text "15m"])]),
  (.text "elasticsearch", .mapping [(.text "index", .text "orders"), (.text "id_field", .text "Id")])], rfl⟩

-- Spelling does not show in the query, and the columns of another table do, also in a look-up
-- that was not brought up to date.
theorem renders_alike_of_orders : Text.ofString "5m" ∈ Spec.Sample.orders.windows.options ∧
    Text.ofString "15m" ∈ spelledOrders.windows.options ∧ Text.ofString "5m" ∈ Spec.Sample.items.windows.options ∧
    ∃ sql text, renderWindow Spec.Sample.orders "5m" = .ok sql ∧ renderWindow spelledOrders "15m" = .ok sql ∧
      renderWindow Spec.Sample.items "5m" = .ok text ∧ sql ≠ text ∧
      (⟨.lookupUpdated, "k", "query text replaced with registry SQL"⟩ : Repair) ∈
        (Projection.syncLookup [("k", ⟨text, "ITEM_2", "5m", "CHANGED"⟩)] [("properties", .object [("k", .text sql)])]).repairs := by
  have option : Text.ofString "5m" ∈ Spec.Sample.orders.windows.options := by decide
  have ofSpelled : Text.ofString "15m" ∈ spelledOrders.windows.options := by decide
  have ofItems : Text.ofString "5m" ∈ Spec.Sample.items.windows.options := by decide
  obtain ⟨old, new, rendered, spelled, alike, -⟩ := renders_alike_iff Spec.Sample.orders_accepted spelledOrders_accepted option ofSpelled
  obtain ⟨sql, text, again, other, unlike, seen⟩ := renders_alike_iff Spec.Sample.orders_accepted Spec.Sample.items_accepted option ofItems
  have same : IsSame Spec.Sample.orders spelledOrders := ⟨by decide, by decide, by decide, by decide⟩
  have differ : ¬ IsSame Spec.Sample.orders Spec.Sample.items := fun same => absurd same.columns (by decide)
  obtain rfl := alike.mpr same
  cases rendered.symm.trans again
  refine ⟨option, ofSpelled, ofItems, old, text, rendered, spelled, other, mt unlike.mp differ, ?_⟩
  let entry : Entry := ⟨text, "ITEM_2", "5m", "CHANGED"⟩
  let registry : Registry := [("k", entry)]
  have distinct : (registry.map Prod.fst).Nodup := List.nodup_singleton _
  have listed : (Text.ofString "k", entry) ∈ registry := List.mem_singleton_self _
  exact ((seen "k" _ entry rfl rfl).2 registry distinct listed).mpr differ

end Query

end ChangeCapture
