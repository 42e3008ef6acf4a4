import ChangeCapture.Failure.Mishap
import ChangeCapture.Json.Reader
import ChangeCapture.Text.Utf8

namespace ChangeCapture

-- However the lines of a text file end, they are read as ended by a line feed. A
-- line feed behind a carriage return belongs to it.
def Text.lineFeeds (afterReturn : Bool) : Text → Text
  | [] => []
  | c :: rest =>
    if c = '\r' then .char '\n' :: lineFeeds true rest
    else if c = '\n' ∧ afterReturn then lineFeeds false rest
    else c :: lineFeeds false rest

def Text.withLineFeeds (text : Text) : Text := text.lineFeeds false

namespace Content

def text (bytes : Bytes) : Except Mishap Text := (Utf8.decode bytes).mapError fun error => .decoding error 0

def blockSize : Nat := 8192

def pendingBefore (bytes : Bytes) (start : Nat) : Nat :=
  let asks (back : Nat) : Bool :=
    match (bytes.drop (start - back)).head? with
    | some b =>
      match Utf8.lead b with
      | .sequence more _ _ => back ≤ more
      | _ => false
    | none => false
  if start = 0 then 0
  else if asks 1 then 1
  else if asks 2 then 2
  else if asks 3 then 3
  else 0

-- Where the block begins that shows an error, with what the one before it left
-- over. A text that ends too early shows it when nothing but that is left.
def blockStart (bytes : Bytes) (error : Utf8DecodeError) : Nat :=
  match error.cause with
  | .unexpectedEnd => error.first
  | _ =>
    let shown := if error.cause = .invalidStart then error.first else error.first + error.count
    let start := shown / blockSize * blockSize
    if error.first < start then error.first else start - pendingBefore bytes start

def textInBlocks (bytes : Bytes) : Except Mishap Text :=
  (Utf8.decode bytes).mapError fun error => .decoding error (blockStart bytes error)

def json (bytes : Bytes) : Except Mishap Json := do
  let text ← text bytes
  (Json.read text.withLineFeeds).mapError .json

end Content

end ChangeCapture
