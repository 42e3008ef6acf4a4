import ChangeCapture.Json.Display
import ChangeCapture.Log
import ChangeCapture.Query.Lint

namespace ChangeCapture

namespace SqlId

def start : Text := "oracle.cdc."

def make (table window : Text) : Text := start ++ table.lower ++ "." ++ window

def isShaped (key : Text) : Bool := key.startsWith start

def isTableStart (c : CodePoint) : Bool := c.isLowerLetter

def isTablePart (c : CodePoint) : Bool := c.isLowerLetter || c.isDigit || c = '_'

def parse? (key : Text) : Option (Text × Text) := do
  let rest ← Text.afterPrefix? start key.withoutFinalBreak
  let (table, rest) := rest.span isTablePart
  match table, rest with
  | first :: _, point :: window =>
    if isTableStart first ∧ point = '.' ∧ Window.isToken window then some (Text.upper table, window) else none
  | _, _ => none

end SqlId

structure Entry where
  sql : Text
  table : Text
  window : Text
  watermark : Text
  deriving DecidableEq, Repr

namespace Entry

def fieldNames : List Text := ["sql", "table", "range", "max_value_column"]

def toFields (entry : Entry) : Fields := [
  ("sql", .text entry.sql), ("table", .text entry.table), ("range", .text entry.window),
  ("max_value_column", .text entry.watermark)]

def text? (fields : Fields) (name : Text) : Option Text :=
  match fields.lookup name with
  | some (.text t) => some t
  | _ => none

def missing (fields : Fields) : List Text := fieldNames.filter fun name => (text? fields name).isNone

def ofFields (fields : Fields) : Except (List Text) Entry :=
  match text? fields "sql", text? fields "table", text? fields "range", text? fields "max_value_column" with
  | some sql, some table, some window, some watermark => .ok ⟨sql, table, window, watermark⟩
  | _, _, _, _ => .error (missing fields)

def missingMessage (names : List Text) : Text :=
  "Registry entry is missing string fields: " ++ Text.joined ", " names

def label (entry : Entry) : Text :=
  "RegistryEntry(table=" ++ entry.table.quoted ++ ", range=" ++ entry.window.quoted ++ ")"

end Entry

abbrev Registry := List (Text × Entry)

namespace Registry

def sorted (registry : Registry) : Registry := Sorting.sort (fun a b => Text.le a.1 b.1) registry

def has (registry : Registry) (key : Text) : Bool := registry.any (·.1 = key)

def toJson (registry : Registry) : Json :=
  .object (registry.sorted.map fun item => (item.1, .object item.2.toFields))

end Registry

inductive RegistryFault where
  | query (table : Text) (fault : QueryFault)
  | conflict (key table : Text)

namespace Registry

def ofSpec (spec : Spec) : Except QueryFault Registry :=
  (spec.windows.options.mapM fun window => do
    let sql ← Query.renderWindow spec window
    pure (SqlId.make spec.tableName window, (⟨sql, spec.tableName, window, spec.table.watermark⟩ : Entry))).map sorted

def join (registry : Registry) : List (Text × Entry) → Except RegistryFault Registry
  | [] => .ok registry
  | (key, entry) :: rest =>
    if registry.has key then .error (.conflict key entry.table) else join (registry ++ [(key, entry)]) rest

def collect (registry : Registry) : List Spec → Except RegistryFault Registry
  | [] => .ok registry
  | spec :: rest =>
    match ofSpec spec with
    | .error fault => .error (.query spec.tableName fault)
    | .ok entries =>
      match join registry entries with
      | .error fault => .error fault
      | .ok joined => collect joined rest

def build (specs : List Spec) : Except RegistryFault Registry := (collect [] specs).map sorted

-- What is told while a registry is built, up to the fault that ends it.

def windowLog (spec : Spec) : List Text → Log
  | [] => []
  | window :: rest =>
    match Query.renderWindow spec window with
    | .error _ => []
    | .ok sql => ⟨.debug, "Rendered " ++ spec.tableName ++ " [" ++ window ++ "]: " ++ sql⟩ :: windowLog spec rest

def generatedMessage (spec : Spec) (entries : Registry) : Text :=
  "Generated " ++ Text.ofNat entries.length ++ " SQL entries for " ++ spec.tableName

def logFrom (registry : Registry) : List Spec → Log
  | [] => []
  | spec :: rest =>
    windowLog spec spec.windows.options ++
      match ofSpec spec with
      | .error _ => []
      | .ok entries =>
        ⟨.info, generatedMessage spec entries⟩ ::
          match join registry entries with
          | .error _ => []
          | .ok joined => logFrom joined rest

def log (specs : List Spec) : Log := logFrom [] specs

end Registry

end ChangeCapture
