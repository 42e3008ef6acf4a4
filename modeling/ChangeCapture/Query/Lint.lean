import ChangeCapture.Json.Display
import ChangeCapture.Query.Basic

namespace ChangeCapture

inductive QueryFault where
  | unknownWindow (window : Text) (options : List Text)
  | ordering (watermark : Text) (found : List (List Text))
  | bounds (found : List (Text × Nat))
  | emptyName
  deriving DecidableEq, Repr

namespace Query

def lint (query : Query) (watermark : Text) : Except QueryFault Unit :=
  match query.orderings? with
  | none => .error .emptyName
  | some orderings =>
    if orderings ≠ [[watermark]] then .error (.ordering watermark orderings)
    else
      let counts := query.boundCounts
      let once := counts.length = 2 ∧ counts.lookup rangeFrom = some 1 ∧ counts.lookup rangeTo = some 1
      if once then .ok () else .error (.bounds counts)

-- The query text of one window of a table. The window only labels it: every
-- window of a table has the same text.
def renderWindow (spec : Spec) (window : Text) : Except QueryFault Text :=
  if spec.windows.options.contains window then
    let query := ofSpec spec
    (query.lint spec.table.watermark).map fun _ => query.render
  else .error (.unknownWindow window spec.windows.options)

end Query

namespace QueryFault

def quotedList (texts : List Text) : Text := (Json.list (texts.map .text)).quoted

def message : QueryFault → Text
  | .unknownWindow window options => "Window '" ++ window ++ "' is not one of " ++ quotedList options
  | .ordering watermark found =>
    "Query must have exactly one ORDER BY " ++ watermark ++ ", found " ++
      (Json.list (found.map fun names => .list (names.map .text))).quoted
  | .bounds found =>
    "Query must reference each window placeholder once, found " ++
      (Json.object (found.map fun entry => (entry.1, .int entry.2))).quoted
  | .emptyName => "tuple index out of range"

def rule? : QueryFault → Option Text
  | .unknownWindow _ _ => some "range"
  | .ordering _ _ => some "order_by"
  | .bounds _ => some "placeholders"
  | .emptyName => none

end QueryFault

end ChangeCapture
