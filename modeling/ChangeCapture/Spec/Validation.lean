import ChangeCapture.Spec.Basic
import ChangeCapture.Spec.Rule

namespace ChangeCapture

abbrev Checked (α : Type) := Except (List Issue) α

namespace Checked

def issues {α : Type} : Checked α → List Issue
  | .ok _ => []
  | .error issues => issues

def fail {α : Type} (path : List Text) (rule : Rule) : Checked α := .error [⟨path, rule⟩]

def ensure {α : Type} (part : Checked α) (path : List Text) (broken : α → Option Rule) : Checked α :=
  match part with
  | .error issues => .error issues
  | .ok value =>
    match broken value with
    | some rule => fail path rule
    | none => .ok value

def all {α : Type} : List (Checked α) → Checked (List α)
  | [] => .ok []
  | first :: rest =>
    match first, all rest with
    | .ok value, .ok values => .ok (value :: values)
    | first, rest => .error (first.issues ++ rest.issues)

end Checked

namespace Spec.Validation

open Checked

def textAt (path : List Text) : Document → Checked Text
  | .text t => .ok t
  | .bytes b =>
    match Utf8.decode b with
    | .ok t => .ok t
    | .error _ => fail path .notUnicode
  | _ => fail path (.wrongKind .text)

def trueWords : List Text := ["1", "on", "t", "true", "y", "yes"]

def falseWords : List Text := ["0", "off", "f", "false", "n", "no"]

def wordValue? (text : Text) : Option Bool :=
  let word := text.map CodePoint.lowerAscii
  if trueWords.contains word then some true
  else if falseWords.contains word then some false
  else none

def wordAt (path : List Text) (text : Text) : Checked Bool :=
  match wordValue? text with
  | some b => .ok b
  | none => fail path .undecided

-- Only whole numbers of 64 bits are looked at, so greater ones are of a wrong kind.
def wholeAt (path : List Text) (isWide : Int → Bool) (n : Int) : Checked Bool :=
  if n = 1 then .ok true
  else if n = 0 then .ok false
  else if isWide n then fail path (.wrongKind .boolean)
  else fail path .undecided

def booleanAt (path : List Text) : Document → Checked Bool
  | .bool b => .ok b
  | .int n => wholeAt path (fun n => n < -Int.pow 2 63 || Int.pow 2 63 ≤ n) n
  | .double x =>
    match x.toInt? with
    | some n => wholeAt path (fun n => Nat.pow 2 63 ≤ n.natAbs) n
    | none => fail path (.wrongKind .boolean)
  | .text t => if t.any Utf8.isHalf then fail path .notUnicode else wordAt path t
  | .bytes b =>
    match Utf8.decode b with
    | .ok t => wordAt path t
    | .error _ => fail path .undecided
  | _ => fail path (.wrongKind .boolean)

def optional {α : Type} (read : Document → Checked α) : Option Document → Checked (Option α)
  | none | some .null => .ok none
  | some value => (read value).map some

def required {α : Type} (path : List Text) (read : Document → Checked α) : Option Document → Checked α
  | none => fail path .required
  | some value => read value

def itemsAt (path : List Text) : Document → Checked (List Document)
  | .list items | .set items => .ok items
  | _ => fail path (.wrongKind .list)

def eachAt {α : Type} (path : List Text) (read : List Text → Document → Checked α) (value : Document) :
    Checked (List α) :=
  match itemsAt path value with
  | .error issues => .error issues
  | .ok items => all (items.mapIdx fun index item => read (path ++ [Text.ofNat index]) item)

def entriesAt (path : List Text) (model : Text) : Document → Checked Entries
  | .mapping entries => .ok entries
  | _ => fail path (.wrongKind (.part model))

def identifierRule (value : Text) : Option Rule :=
  if Identifier.accepts value then none else some (.identifier value)

def identifierAt (path : List Text) (value : Option Document) : Checked Text :=
  ensure (required path (textAt path) value) path identifierRule

def columnAt (path : List Text) (value : Document) : Checked Column :=
  match entriesAt path "ColumnSpec" value with
  | .error issues => .error issues
  | .ok entries =>
    let step (name : Text) := path ++ [name]
    let name := identifierAt (step "name") (Document.entry? entries "name")
    let type := optional (textAt (step "type")) (Document.entry? entries "type")
    let nullable : Checked Bool := match Document.entry? entries "nullable" with
      | none => .ok true
      | some value => booleanAt (step "nullable") value
    match name, type, nullable with
    | .ok name, .ok type, .ok nullable => .ok ⟨name, type, nullable⟩
    | name, type, nullable => .error (name.issues ++ type.issues ++ nullable.issues)

-- The schema may be given under either of two names; the shorter one goes first.
def tableAt (path : List Text) (value : Document) : Checked Table :=
  match entriesAt path "TableSpec" value with
  | .error issues => .error issues
  | .ok entries =>
    let step (name : Text) := path ++ [name]
    let field (name : Text) := Document.entry? entries name
    let name := identifierAt (step "name") (field "name")
    let schema := identifierAt (step "schema") ((field "schema").orElse fun _ => field "schema_name")
    let key := identifierAt (step "primary_key") (field "primary_key")
    let watermark := identifierAt (step "cdc_key") (field "cdc_key")
    let description := optional (textAt (step "description")) (field "description")
    match name, schema, key, watermark, description with
    | .ok name, .ok schema, .ok key, .ok watermark, .ok description =>
      .ok ⟨name, schema, key, watermark, description⟩
    | name, schema, key, watermark, description =>
      .error (name.issues ++ schema.issues ++ key.issues ++ watermark.issues ++ description.issues)

def hasRepeats (texts : List Text) : Bool := !decide texts.Nodup

def optionsRule (options : List Text) : Option Rule :=
  if options.isEmpty then some .noWindows
  else match options.find? fun window => !Window.accepts window with
    | some window => some (.window window)
    | none => if hasRepeats options then some .repeatedWindow else none

def defaultRule (windows : Windows) : Option Rule :=
  match windows.default with
  | none => none
  | some window => if windows.options.contains window then none else some (.unknownDefault window)

def windowsAt (path : List Text) (value : Document) : Checked Windows :=
  match entriesAt path "RangeSpec" value with
  | .error issues => .error issues
  | .ok entries =>
    let step (name : Text) := path ++ [name]
    let options := ensure
      (required (step "options") (eachAt (step "options") textAt) (Document.entry? entries "options"))
      (step "options") optionsRule
    let pinned := optional (textAt (step "default")) (Document.entry? entries "default")
    match options, pinned with
    | .ok options, .ok pinned => ensure (.ok ⟨options, pinned⟩) path defaultRule
    | options, pinned => .error (options.issues ++ pinned.issues)

def keyed (path : List Text) (entries : Entries) : Checked Entries :=
  match all (entries.map fun entry => textAt (path ++ ([entry.1.pathStep, "[key]"] : List Text)) entry.1) with
  | .ok keys => .ok (keys.zipWith (fun key entry => (.text key, entry.2)) entries)
  | .error issues => .error issues

def mappingAt (path : List Text) : Document → Checked Entries
  | .mapping entries => keyed path entries
  | _ => fail path (.wrongKind .mapping)

def indexRule (index : Text) : Option Rule := if index.isBlank then some .blankIndex else none

def destinationAt (path : List Text) (value : Document) : Checked Destination :=
  match entriesAt path "ElasticsearchSpec" value with
  | .error issues => .error issues
  | .ok entries =>
    let step (name : Text) := path ++ [name]
    let index := ensure (required (step "index") (textAt (step "index")) (Document.entry? entries "index"))
      (step "index") indexRule
    let idField := identifierAt (step "id_field") (Document.entry? entries "id_field")
    let mapping := optional (mappingAt (step "mapping")) (Document.entry? entries "mapping")
    match index, idField, mapping with
    | .ok index, .ok idField, .ok mapping => .ok ⟨index, idField, mapping⟩
    | index, idField, mapping => .error (index.issues ++ idField.issues ++ mapping.issues)

def captureAt (path : List Text) (value : Document) : Checked Capture :=
  match entriesAt path "CdcOptions" value with
  | .error issues => .error issues
  | .ok entries =>
    let step (name : Text) := path ++ [name]
    let text (name standard : Text) : Checked Text := match Document.entry? entries name with
      | none => .ok standard
      | some value => textAt (step name) value
    let mode := ensure (text "mode" Capture.standard.mode) (step "mode")
      fun value => if value = Capture.standard.mode then none else some (.mode value)
    let deletes := text "delete_handling" Capture.standard.deleteHandling
    let updates := ensure (text "update_handling" Capture.standard.updateHandling) (step "update_handling")
      fun value => if value = Capture.standard.updateHandling then none else some (.update value)
    match mode, deletes, updates with
    | .ok mode, .ok deletes, .ok updates => .ok ⟨mode, deletes, updates⟩
    | mode, deletes, updates => .error (mode.issues ++ deletes.issues ++ updates.issues)

def columnsRule (columns : List Column) : Option Rule :=
  if columns.isEmpty then some .noColumns
  else if hasRepeats (columns.map fun column => column.name.upper) then some .repeatedColumn
  else none

def specRule (spec : Spec) : Option Rule :=
  if spec.destination.idField ≠ spec.table.primaryKey then
    some (.keyMismatch spec.destination.idField spec.table.primaryKey)
  else match spec.columns with
    | none => none
    | some columns =>
      let names := columns.map fun column => column.name.upper
      if !names.contains spec.table.watermark.upper then
        some (.missingColumn "table.cdc_key" spec.table.watermark)
      else if !names.contains spec.table.primaryKey.upper then
        some (.missingColumn "table.primary_key" spec.table.primaryKey)
      else none

def specAt (entries : Entries) : Checked Spec :=
  let field (name : Text) := Document.entry? entries name
  let table := required ["table"] (tableAt ["table"]) (field "table")
  let windows := required ["range"] (windowsAt ["range"]) (field "range")
  let destination := required ["elasticsearch"] (destinationAt ["elasticsearch"]) (field "elasticsearch")
  let columns : Checked (Option (List Column)) :=
    optional (fun value => ensure (eachAt ["columns"] columnAt value) ["columns"] columnsRule) (field "columns")
  let capture : Checked Capture := match field "cdc" with
    | none => .ok .standard
    | some value => captureAt ["cdc"] value
  match table, windows, destination, columns, capture with
  | .ok table, .ok windows, .ok destination, .ok columns, .ok capture =>
    ensure (.ok ⟨table, windows, destination, columns, capture⟩) [] specRule
  | table, windows, destination, columns, capture =>
    .error (table.issues ++ windows.issues ++ destination.issues ++ columns.issues ++ capture.issues)

end Spec.Validation

-- The first issue is the one that is told, though all of them have to be writable.
-- A failed check always has one.
def SpecFault.ofIssues (issues : List Issue) : SpecFault :=
  match issues.forM fun issue => issue.rule.writable with
  | .error error => .unwritable error
  | .ok _ => .invalid (issues.headD ⟨[], .required⟩) issues.length

def Spec.ofDocument : Document → Except SpecFault Spec
  | .mapping entries => (Spec.Validation.specAt entries).mapError .ofIssues
  | other => .error (.noMapping other.kindName)

end ChangeCapture
