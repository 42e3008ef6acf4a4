import ChangeCapture.Number.Binary64
import ChangeCapture.Text.Decimal

namespace ChangeCapture

def exponentOf? (text : Text) : Option Int :=
  let (negative, digits) : Bool × Text := match text with
    | c :: rest => if c = '-' then (true, rest) else if c = '+' then (false, rest) else (false, text)
    | [] => (false, [])
  if digits.isEmpty || !digits.all CodePoint.isDigit then none
  else some (if negative then -(Text.digitsValue digits : Int) else Text.digitsValue digits)

def unsignedDecimal? (negative : Bool) (text : Text) : Option Binary64 :=
  let whole := text.takeWhile CodePoint.isDigit
  let rest := text.dropWhile CodePoint.isDigit
  let (places, rest) : Text × Text := match rest with
    | c :: more => if c = '.' then (more.takeWhile CodePoint.isDigit, more.dropWhile CodePoint.isDigit) else ([], rest)
    | [] => ([], [])
  let exponent : Option Int := match rest with
    | [] => some 0
    | c :: more => if c.lowerAscii = 'e' then exponentOf? more else none
  if whole.isEmpty && places.isEmpty then none
  else exponent.map fun e => .ofDecimal negative (Text.digitsValue (whole ++ places)) (e - places.length)

def Binary64.ofText? (text : Text) : Option Binary64 :=
  let body := text.numeral
  let (negative, unsigned) : Bool × Text := match body with
    | c :: rest => if c = '-' then (true, rest) else if c = '+' then (false, rest) else (false, body)
    | [] => (false, [])
  let word := unsigned.map CodePoint.lowerAscii
  if word = Text.ofString "inf" ∨ word = Text.ofString "infinity" then some (.infinite negative)
  else if word = Text.ofString "nan" then some .nan
  else unsignedDecimal? negative unsigned

end ChangeCapture
