import ChangeCapture.Text.Word

namespace ChangeCapture

def decimalZeros : List Nat := [
  0x0030, 0x0660, 0x06F0, 0x07C0, 0x0966, 0x09E6, 0x0A66, 0x0AE6, 0x0B66, 0x0BE6, 0x0C66, 0x0CE6, 0x0D66, 0x0DE6] ++ [
  0x0E50, 0x0ED0, 0x0F20, 0x1040, 0x1090, 0x17E0, 0x1810, 0x1946, 0x19D0, 0x1A80, 0x1A90, 0x1B50, 0x1BB0, 0x1C40] ++ [
  0x1C50, 0xA620, 0xA8D0, 0xA900, 0xA9D0, 0xA9F0, 0xAA50, 0xABF0, 0xFF10, 0x104A0, 0x10D30, 0x11066, 0x110F0] ++ [
  0x11136, 0x111D0, 0x112F0, 0x11450, 0x114D0, 0x11650, 0x116C0, 0x11730, 0x118E0, 0x11950, 0x11C50, 0x11D50] ++ [
  0x11DA0, 0x16A60, 0x16AC0, 0x16B50, 0x1D7CE, 0x1D7D8, 0x1D7E2, 0x1D7EC, 0x1D7F6, 0x1E140, 0x1E2F0, 0x1E950, 0x1FBF0]

def CodePoint.decimal? (c : CodePoint) : Option Nat :=
  (decimalZeros.find? fun start => start ≤ c.toNat && c.toNat < start + 10).map fun start => c.toNat - start

def isNumeralBlank (c : CodePoint) : Bool := c.isBlank && !(0x1C ≤ c.toNat && c.toNat ≤ 0x1F)

def Text.numeral (text : Text) : Text :=
  let digits : Text := text.map fun c => match c.decimal? with
    | some d => .ofNat (0x30 + d)
    | none => c
  let left := digits.dropWhile isNumeralBlank
  (left.reverse.dropWhile isNumeralBlank).reverse

namespace Text

def digit (d : Nat) : CodePoint := .ofNat (0x30 + d)

-- The decimal digits of a number, most significant first and none to spare.
-- A number has no more digits than its own value plus one, which bounds the loop.
def digitsOf : Nat → Nat → Text → Text
  | 0, _, later => later
  | bound + 1, n, later =>
    if n < 10 then digit n :: later else digitsOf bound (n / 10) (digit (n % 10) :: later)

def ofNat (n : Nat) : Text := digitsOf (n + 1) n []

def ofInt : Int → Text
  | .ofNat n => ofNat n
  | .negSucc n => "-" ++ ofNat (n + 1)

def digitsValue (digits : Text) : Nat :=
  digits.foldl (fun value c => value * 10 + (c.toNat - 0x30)) 0

def hexDigit (d : Nat) : CodePoint := .ofNat (if d < 10 then 0x30 + d else 0x57 + d)

def hex : Nat → Nat → Text
  | 0, _ => []
  | width + 1, n => hex width (n / 16) ++ [hexDigit (n % 16)]

def padded (width n : Nat) : Text :=
  let digits := ofNat n
  List.replicate (width - digits.length) (.char '0') ++ digits

end Text

end ChangeCapture
