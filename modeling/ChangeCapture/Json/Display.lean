import ChangeCapture.Json.Basic
import ChangeCapture.Number.Shortest
import ChangeCapture.Text.Quoted

namespace ChangeCapture.Json

def messageLayout : DoubleLayout := ⟨-4, 16, 2, "nan", "inf"⟩

mutual
def quoted : Json → Text
  | .null => "None"
  | .bool b => if b then "True" else "False"
  | .int n => Text.ofInt n
  | .double x => x.write messageLayout
  | .text t => Text.quoted t
  | .list items => "[" ++ Text.joined ", " (quotedItems items) ++ "]"
  | .object fields => ("\x7b" : Text) ++ Text.joined ", " (quotedFields fields) ++ "\x7d"

def quotedItems : List Json → List Text
  | [] => []
  | item :: rest => quoted item :: quotedItems rest

def quotedFields : List (Text × Json) → List Text
  | [] => []
  | (name, value) :: rest => (Text.quoted name ++ ": " ++ quoted value) :: quotedFields rest
end

def spliced : Json → Text
  | .text t => t
  | other => quoted other

def kindName : Json → Text
  | .null => "NoneType"
  | .bool _ => "bool"
  | .int _ => "int"
  | .double _ => "float"
  | .text _ => "str"
  | .list _ => "list"
  | .object _ => "dict"

end ChangeCapture.Json
