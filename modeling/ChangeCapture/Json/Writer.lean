import ChangeCapture.Json.Basic
import ChangeCapture.Number.Shortest

namespace ChangeCapture.Json

def writeOne (c : CodePoint) : Text :=
  if c = '"' then "\\\""
  else if c = '\\' then "\\\\"
  else if c = '\n' then "\\n"
  else if c = '\r' then "\\r"
  else if c = '\t' then "\\t"
  else if c = '\x0c' then "\\f"
  else if c = '\x08' then "\\b"
  else if c.toNat < 0x20 then "\\u" ++ Text.hex 4 c.toNat
  else [c]

def writeText (text : Text) : Text := "\"" ++ text.flatMap writeOne ++ "\""

def doubleLayout : DoubleLayout := ⟨-4, 16, 2, "NaN", "Infinity"⟩

def lineBreak (depth : Nat) : Text := .char '\n' :: List.replicate (2 * depth) (.char ' ')

def separated (depth : Nat) : List Text → Text
  | [] => []
  | first :: rest => first ++ rest.flatMap fun part => .char ',' :: (lineBreak depth ++ part)

def enclosed (opening closing : Text) (depth : Nat) (parts : List Text) : Text :=
  if parts.isEmpty then opening ++ closing
  else opening ++ lineBreak (depth + 1) ++ separated (depth + 1) parts ++ lineBreak depth ++ closing

def byName (fields : List (Text × Text)) : List (Text × Text) :=
  Sorting.sort (fun a b => Text.le a.1 b.1) fields

mutual
def writeAt (depth : Nat) : Json → Text
  | .null => "null"
  | .bool b => if b then "true" else "false"
  | .int n => Text.ofInt n
  | .double x => x.write doubleLayout
  | .text t => writeText t
  | .list items => enclosed "[" "]" depth (writeItems (depth + 1) items)
  | .object fields =>
    enclosed "\x7b" "\x7d" depth
      ((byName (writeFields (depth + 1) fields)).map fun field => writeText field.1 ++ ": " ++ field.2)

def writeItems (depth : Nat) : List Json → List Text
  | [] => []
  | item :: rest => writeAt depth item :: writeItems depth rest

def writeFields (depth : Nat) : List (Text × Json) → List (Text × Text)
  | [] => []
  | (name, value) :: rest => (name, writeAt depth value) :: writeFields depth rest
end

-- A document as it is kept on disk: two blanks a level, names in code point order,
-- and a line feed at the end. Equal documents have equal texts.
def write (document : Json) : Text := writeAt 0 document ++ "\n"

end ChangeCapture.Json
