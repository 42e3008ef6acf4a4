import ChangeCapture.Text.Decimal
import ChangeCapture.Text.Quoted

namespace ChangeCapture

inductive IntegerFault where
  | invalid (base : Nat) (text : Text)
  | long (digits : Nat)
  | unwritable
  deriving DecidableEq, Repr

-- Decimal integers of more digits than this are neither read nor written.
def digitLimit : Nat := 4300

def longIntegerText (count : Text) : Text :=
  "Exceeds the limit (" ++ Text.ofNat digitLimit ++ " digits) for integer string conversion" ++ count ++
    "; use sys.set_int_max_str_digits() to increase the limit"

def longIntegerMessage (digits : Nat) : Text := longIntegerText (": value has " ++ Text.ofNat digits ++ " digits")

def quotedLimit : Nat := 200

def IntegerFault.message : IntegerFault → Text
  | .invalid base text =>
    "invalid literal for int() with base " ++ Text.ofNat base ++ ": " ++ (Text.quoted text).take quotedLimit
  | .long digits => longIntegerMessage digits
  | .unwritable => longIntegerText []

namespace Integer

def write (n : Int) : Except IntegerFault Text :=
  if digitLimit < (Text.ofNat n.natAbs).length then .error .unwritable else .ok (Text.ofInt n)

def digitIn? (base : Nat) (c : CodePoint) : Option Nat :=
  match c.hexDigit? with
  | some d => if d < base then some d else none
  | none => none

def valueIn (base : Nat) (digits : Text) : Nat :=
  digits.foldl (fun value c => value * base + (c.hexDigit?.getD 0)) 0

def marker? (base : Nat) : Option CodePoint :=
  if base = 16 then some 'x' else if base = 8 then some 'o' else if base = 2 then some 'b' else none

def withoutMarker (base : Nat) (text : Text) : Text :=
  match text, marker? base with
  | zero :: mark :: rest, some marker =>
    if zero = '0' ∧ (mark = marker ∨ mark.lowerAscii = marker) then rest else text
  | _, _ => text

def read (base : Nat) (text : Text) : Except IntegerFault Int :=
  let body := text.numeral
  let (negative, unsigned) : Bool × Text :=
    match body with
    | c :: rest => if c = '-' then (true, rest) else if c = '+' then (false, rest) else (false, body)
    | [] => (false, [])
  let (digits, rest) := (withoutMarker base unsigned).span fun c => (digitIn? base c).isSome
  if base = 10 ∧ digitLimit < digits.length then .error (.long digits.length)
  else if digits.isEmpty || !rest.isEmpty then .error (.invalid base text)
  else .ok (if negative then -(valueIn base digits : Int) else valueIn base digits)

end Integer

end ChangeCapture
