import ChangeCapture.Document.Basic
import ChangeCapture.Spec.Token

namespace ChangeCapture

structure Column where
  name : Text
  type : Option Text
  nullable : Bool

structure Table where
  name : Text
  schema : Text
  primaryKey : Text
  watermark : Text
  description : Option Text

structure Windows where
  options : List Text
  default : Option Text

structure Destination where
  index : Text
  idField : Text
  mapping : Option Entries

structure Capture where
  mode : Text
  deleteHandling : Text
  updateHandling : Text

def Capture.standard : Capture := ⟨"timestamp", "ignore", "upsert"⟩

structure Spec where
  table : Table
  windows : Windows
  destination : Destination
  columns : Option (List Column)
  capture : Capture

namespace Spec

def tableName (spec : Spec) : Text := spec.table.name.upper

def tableLower (spec : Spec) : Text := spec.table.name.lower

def columnNames (spec : Spec) : Option (List Text) := spec.columns.map fun columns => columns.map Column.name

-- The pinned default, or else the shortest window; of equally long ones the first
-- in code point order. Every window's length is taken before they are compared.
def defaultWindow (spec : Spec) : Except IntegerFault Text :=
  match spec.windows.default with
  | some window => if window.isEmpty then shortest else .ok window
  | none => shortest
where
  shorter (a b : Int × Text) : Bool := a.1 < b.1 || (a.1 == b.1 && Text.lt a.2 b.2)
  shortest : Except IntegerFault Text := do
    let measured ← spec.windows.options.mapM fun window => do
      let minutes ← Window.minutes window
      pure (minutes, window)
    match measured with
    | [] => pure []
    | first :: rest => pure (rest.foldl (fun best next => if shorter next best then next else best) first).2

end Spec

end ChangeCapture
