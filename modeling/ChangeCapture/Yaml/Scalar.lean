import ChangeCapture.Document.Basic
import ChangeCapture.Number.Decimal
import ChangeCapture.Text.Case
import ChangeCapture.Text.Utf8
import ChangeCapture.Yaml.Cursor
import ChangeCapture.Yaml.Tag

namespace ChangeCapture.Base64

def sextet? (c : CodePoint) : Option Nat :=
  if c.isUpperLetter then some (c.toNat - 0x41)
  else if c.isLowerLetter then some (c.toNat - 0x61 + 26)
  else if c.isDigit then some (c.toNat - 0x30 + 52)
  else if c = '+' then some 62
  else if c = '/' then some 63
  else none

-- Four letters make three bytes and all that is no letter is passed over. Padding
-- ends the data where the four are complete with it; `taken` letters of the four
-- and `pads` signs of padding have been read, and `held` bits are not yet written.
def decodeFrom (taken pads held : Nat) : Text → Option Bytes
  | [] => if taken = 0 then some [] else none
  | c :: rest =>
    if c = '=' then
      if 2 ≤ taken ∧ 4 ≤ taken + pads + 1 then some []
      else decodeFrom taken (if 2 ≤ taken then pads + 1 else pads) held rest
    else
      match sextet? c with
      | none => decodeFrom taken pads held rest
      | some s =>
        match taken with
        | 0 => decodeFrom 1 0 s rest
        | 1 => (decodeFrom 2 0 (s % 16) rest).map (.ofNat (held * 4 + s / 16) :: ·)
        | 2 => (decodeFrom 3 0 (s % 4) rest).map (.ofNat (held * 16 + s / 4) :: ·)
        | _ => (decodeFrom 0 0 0 rest).map (.ofNat (held * 64 + s) :: ·)

def decode (text : Text) : Option Bytes := decodeFrom 0 0 0 text

end ChangeCapture.Base64

namespace ChangeCapture.Yaml.Scalar

-- The value of a scalar of a given type. The text need not look like that type:
-- a type that is written out is taken at its word.

def refuse (mishap : Mishap) : Except Fault Document := .error (.refused mishap)

def truths : List (String × Bool) := [("yes", true), ("no", false), ("true", true), ("false", false), ("on", true),
  ("off", false)]

def bool (text : Text) : Except Fault Document :=
  let word := text.lower
  match truths.find? fun entry => Text.ofString entry.1 = word with
  | some entry => .ok (.bool entry.2)
  | none => refuse (.unknownName word)

def signed (text : Text) : Option (Bool × Text) :=
  match text.filter (· ≠ .char '_') with
  | [] => none
  | c :: rest => some (c = '-', if c = '-' ∨ c = '+' then rest else c :: rest)

def intsOf : List Text → Except IntegerFault (List Int)
  | [] => .ok []
  | piece :: pieces => do
    let value ← Integer.read 10 piece
    let values ← intsOf pieces
    .ok (value :: values)

def magnitude (text : Text) : Except Fault Int :=
  let told (result : Except IntegerFault Int) : Except Fault Int :=
    result.mapError fun fault => .refused (.integer fault)
  match text with
  | [] => .error (.refused .emptyScalar)
  | c :: rest =>
    if text = Text.ofString "0" then .ok 0
    else if Text.startsWith text "0b" then told (Integer.read 2 (rest.drop 1))
    else if Text.startsWith text "0x" then told (Integer.read 16 (rest.drop 1))
    else if c = '0' then told (Integer.read 8 text)
    else if text.contains (.char ':') then
      told ((intsOf (Text.splitOn ':' text)).map fun places => places.foldl (fun value place => value * 60 + place) 0)
    else told (Integer.read 10 text)

def int (text : Text) : Except Fault Document :=
  match signed text with
  | none => refuse .emptyScalar
  | some (negative, digits) => (magnitude digits).map fun n => .int (if negative then -n else n)

def doublesOf : List Text → Except Fault (List Binary64)
  | [] => .ok []
  | piece :: pieces =>
    match Binary64.ofText? piece with
    | some value => (doublesOf pieces).map (value :: ·)
    | none => .error (.refused (.decimal piece))

def sumPlaces (power : Nat) (sum : Binary64) : List Binary64 → Except Fault Binary64
  | [] => .ok sum
  | place :: places =>
    match Binary64.ofInt power with
    | .infinite _ => .error (.refused .largeInteger)
    | factor => sumPlaces (power * 60) (sum.add (place.mul factor)) places

def usualNaN : Text := ".nan"

def isUsualNaN (text : Text) : Bool := (signed text.lower).map Prod.snd = some usualNaN

def float (text : Text) : Except Fault Document :=
  match signed text.lower with
  | none => refuse .emptyScalar
  | some (negative, digits) =>
    let value : Except Fault Binary64 :=
      if digits = Text.ofString ".inf" then .ok (.infinite false)
      else if digits = usualNaN then .ok .nan
      else if digits.contains (.char ':') then do
        let places ← doublesOf (Text.splitOn ':' digits)
        sumPlaces 1 (.zero false) places.reverse
      else
        match Binary64.ofText? digits with
        | some value => .ok value
        | none => .error (.refused (.decimal digits))
    value.map fun x => .double (if negative then x.negated else x)

def binary (text : Text) : Except Fault Document :=
  if text.isAscii then
    match Base64.decode text with
    | some bytes => .ok (.bytes bytes)
    | none => .error .malformed
  else .error .malformed

def timestamp (text : Text) : Except Fault Document :=
  match Stamp.read? text with
  | none => refuse .noTimestamp
  | some stamp =>
    let told (result : Except CalendarFault Document) : Except Fault Document :=
      result.mapError fun fault => .refused (.calendar fault)
    match stamp.clock with
    | none => told ((Date.make stamp.year stamp.month stamp.day).map .date)
    | some clock => told ((stamp.moment clock).map .moment)

end ChangeCapture.Yaml.Scalar
