import ChangeCapture.Document.Calendar
import ChangeCapture.Json.Basic
import ChangeCapture.Json.Display
import ChangeCapture.Number.Integer
import ChangeCapture.Text.Utf8

namespace ChangeCapture

-- A parsed specification document. Beyond what JSON has, there are bytes, dates,
-- moments and sets, and any scalar may be a key. `again` stands for a collection
-- that leads back to itself, far from the root.
inductive Document where
  | null
  | bool (value : Bool)
  | int (value : Int)
  | double (value : Binary64)
  | text (value : Text)
  | bytes (value : Bytes)
  | date (value : Date)
  | moment (value : Moment)
  | list (items : List Document)
  | set (members : List Document)
  | mapping (entries : List (Document × Document))
  | again (keyed : Bool)

instance : Inhabited Document := ⟨.null⟩

abbrev Entries := List (Document × Document)

namespace Document

mutual
def ofJson : Json → Document
  | .null => .null
  | .bool b => .bool b
  | .int n => .int n
  | .double x => .double x
  | .text t => .text t
  | .list items => .list (ofItems items)
  | .object fields => .mapping (ofFields fields)

def ofItems : List Json → List Document
  | [] => []
  | item :: rest => ofJson item :: ofItems rest

def ofFields : List (Text × Json) → List (Document × Document)
  | [] => []
  | (name, value) :: rest => (.text name, ofJson value) :: ofFields rest
end

def kindName : Document → Text
  | .null => "NoneType"
  | .bool _ => "bool"
  | .int _ => "int"
  | .double _ => "float"
  | .text _ => "str"
  | .bytes _ => "bytes"
  | .date _ => "date"
  | .moment _ => "datetime"
  | .list _ | .again false => "list"
  | .set _ => "set"
  | .mapping _ | .again true => "dict"

def keyInt? : Document → Option Int
  | .bool b => some (if b then 1 else 0)
  | .int n => some n
  | .double x => x.toInt?
  | _ => none

-- When two scalars are equal as keys. Collections are no keys, and a NaN equals
-- nothing.
def sameKey (a b : Document) : Bool :=
  match a.keyInt?, b.keyInt? with
  | some m, some n => m = n
  | none, none =>
    match a, b with
    | .null, .null => true
    | .double x, .double y => x.equals y
    | .text s, .text t => s = t
    | .bytes s, .bytes t => s = t
    | .date s, .date t => s = t
    | .moment s, .moment t => s.same t
    | _, _ => false
  | _, _ => false

def entry? (entries : Entries) (key : Text) : Option Document :=
  (entries.find? fun
    | (.text k, _) => k = key
    | _ => false).map Prod.snd

def quotedBytes (bytes : Bytes) : Text :=
  let text : Text := bytes.map fun b => .ofNat b.toNat
  let quote := Text.quoteFor text
  let one (c : CodePoint) : Text := if c.isAscii then Text.quotedOne quote c else "\\x" ++ Text.hex 2 c.toNat
  .char 'b' :: quote :: text.flatMap one ++ [quote]

def quotedMoment (moment : Moment) : Text :=
  let parts : List Nat := [moment.date.year, moment.date.month, moment.date.day, moment.hour, moment.minute] ++
    (if moment.second = 0 ∧ moment.microsecond = 0 then [] else [moment.second]) ++
    (if moment.microsecond = 0 then [] else [moment.microsecond])
  let zone : List Text := match moment.offset with
    | none => []
    | some seconds =>
      if seconds = 0 then ["tzinfo=datetime.timezone.utc"]
      else ["tzinfo=datetime.timezone(" ++ spanParts seconds ++ ")"]
  "datetime.datetime(" ++ Text.joined ", " (parts.map Text.ofNat ++ zone) ++ ")"

def pathStep : Document → Text
  | .text t => t
  | .bool b => if b then "1" else "0"
  | .int n => (Integer.write n).toOption.getD "<unprintable int object>"
  | .null => "None"
  | .double x => x.write Json.messageLayout
  | .bytes b => quotedBytes b
  | .date d => "datetime.date(" ++ Text.joined ", " ([d.year, d.month, d.day].map Text.ofNat) ++ ")"
  | .moment m => quotedMoment m
  | .list _ | .set _ | .mapping _ | .again _ => ""

end Document

end ChangeCapture
