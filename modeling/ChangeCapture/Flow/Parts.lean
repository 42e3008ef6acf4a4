import ChangeCapture.Json.Basic

namespace ChangeCapture

namespace Part

def id? : Json → Option Json
  | .object fields => Fields.get? fields "identifier"
  | _ => none

def hasId (id : Text) (item : Json) : Bool := id? item = some (.text id)

def find? (items : List Json) (id : Text) : Option Fields :=
  match items.find? (hasId id) with
  | some (.object fields) => some fields
  | _ => none

def replaceFirst (id : Text) (fields : Fields) : List Json → List Json
  | [] => []
  | item :: rest =>
    if hasId id item then .object fields :: rest else item :: replaceFirst id fields rest

def items : Option Json → List Json
  | some (.list items) => items
  | _ => []

def end? (connection : Json) (side : Text) : Option Json :=
  match connection.field? side with
  | some ending => ending.field? "id"
  | none => none

def properties (fields : Fields) : Fields :=
  match Fields.get? fields "properties" with
  | some (.object properties) => properties
  | _ => []

end Part

end ChangeCapture
