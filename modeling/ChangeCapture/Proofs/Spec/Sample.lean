import ChangeCapture.Proofs.Outcome
import ChangeCapture.Proofs.Spec.Accepted
import ChangeCapture.Spec.Loading

namespace ChangeCapture.Spec.Sample

-- Two tables that the general results are tried on. The names of the first one are
-- reserved words, so its query quotes them.

def ordersDocument : Document := .mapping [
  (.text "table", .mapping [
    (.text "name", .text "Order"), (.text "schema", .text "Sales"), (.text "primary_key", .text "Id"),
    (.text "cdc_key", .text "Date")]),
  (.text "range", .mapping [(.text "options", .list [.text "60m", .text "5m"])]),
  (.text "elasticsearch", .mapping [(.text "index", .text "orders"), (.text "id_field", .text "Id")])]

def orders : Spec where
  table := ⟨"Order", "Sales", "Id", "Date", none⟩
  windows := ⟨["60m", "5m"], none⟩
  destination := ⟨"orders", "Id", none⟩
  columns := none
  capture := .standard

def itemsDocument : Document := .mapping [
  (.text "table", .mapping [
    (.text "name", .text "ITEM_2"), (.text "schema_name", .text "Sales"), (.text "primary_key", .text "NO"),
    (.text "cdc_key", .text "CHANGED")]),
  (.text "range", .mapping [(.text "options", .list [.text "5m"]), (.text "default", .text "5m")]),
  (.text "elasticsearch", .mapping [(.text "index", .text "items"), (.text "id_field", .text "NO")]),
  (.text "columns", .list [
    .mapping [(.text "name", .text "no")], .mapping [(.text "name", .text "changed"), (.text "nullable", .bool false)]])]

def items : Spec where
  table := ⟨"ITEM_2", "Sales", "NO", "CHANGED", none⟩
  windows := ⟨["5m"], some "5m"⟩
  destination := ⟨"items", "NO", none⟩
  columns := some [⟨"no", none, true⟩, ⟨"changed", none, false⟩]
  capture := .standard

theorem orders_accepted : orders.Accepted := ⟨ordersDocument, rfl⟩

theorem items_accepted : items.Accepted := ⟨itemsDocument, rfl⟩

def small : Spec where
  table := ⟨"T", "S", "I", "U", none⟩
  windows := ⟨["5m"], none⟩
  destination := ⟨"t", "I", none⟩
  columns := none
  capture := .standard

def smallDocument : Document := .mapping [
  (.text "table", .mapping [
    (.text "name", .text "T"), (.text "schema", .text "S"), (.text "primary_key", .text "I"), (.text "cdc_key", .text "U")]),
  (.text "range", .mapping [(.text "options", .list [.text "5m"])]),
  (.text "elasticsearch", .mapping [(.text "index", .text "t"), (.text "id_field", .text "I")])]

theorem small_accepted : small.Accepted := ⟨smallDocument, rfl⟩

def rivalDocument : Document := .mapping [
  (.text "table", .mapping [
    (.text "name", .text "t"), (.text "schema", .text "S"), (.text "primary_key", .text "J"), (.text "cdc_key", .text "V")]),
  (.text "range", .mapping [(.text "options", .list [.text "60m"])]),
  (.text "elasticsearch", .mapping [(.text "index", .text "u"), (.text "id_field", .text "J")])]

def rival : Spec where
  table := ⟨"t", "S", "J", "V", none⟩
  windows := ⟨["60m"], none⟩
  destination := ⟨"u", "J", none⟩
  columns := none
  capture := .standard

theorem rival_accepted : rival.Accepted := ⟨rivalDocument, rfl⟩

theorem rivals_accepted : ∀ spec ∈ [small, rival], spec.Accepted := by simpa using ⟨small_accepted, rival_accepted⟩

def smallPath : Path := ⟨0, ["t.yaml"]⟩

def smallText : Text :=
  "\x7btable: \x7bname: T, schema: S, primary_key: I, cdc_key: U\x7d, range: \x7boptions: [5m]\x7d, elasticsearch: \x7bindex: t, id_field: I\x7d\x7d"

def fileOf (text : Text) : Bytes := (Utf8.encode text).toOption.getD []

theorem encode_fileOf (text : Text) (encoded : (Utf8.encode text).toOption.isSome) : Utf8.encode text = .ok (fileOf text) := by
  obtain ⟨bytes, same⟩ := eq_ok_of_isSome encoded
  rw [fileOf, same]
  rfl

def smallFile : Bytes := fileOf smallText

theorem ofBytes_small : Spec.ofBytes smallPath smallFile = .ok small := by
  have parsed : (Spec.ofBytes smallPath smallFile).toOption.any fun spec =>
      spec.table.name = small.table.name ∧ spec.table.schema = small.table.schema ∧
      spec.table.primaryKey = small.table.primaryKey ∧ spec.table.watermark = small.table.watermark ∧
      spec.table.description = none ∧ spec.windows.options = small.windows.options ∧ spec.windows.default = none ∧
      spec.destination.index = small.destination.index ∧ spec.destination.idField = small.destination.idField ∧
      spec.destination.mapping.isNone ∧ spec.columns.isNone ∧ spec.capture.mode = small.capture.mode ∧
      spec.capture.deleteHandling = small.capture.deleteHandling ∧
      spec.capture.updateHandling = small.capture.updateHandling := by decide +kernel
  obtain ⟨⟨⟨⟩, ⟨⟩, ⟨⟩, columns, ⟨⟩⟩, read, same⟩ := eq_ok_of_any parsed
  simp only [decide_eq_true_eq, Option.isNone_iff_eq_none] at same
  obtain ⟨rfl, rfl, rfl, rfl, rfl, rfl, rfl, rfl, rfl, rfl, rfl, rfl, rfl, rfl⟩ := same
  exact read

end ChangeCapture.Spec.Sample
