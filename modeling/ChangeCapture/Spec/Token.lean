import ChangeCapture.Number.Integer
import ChangeCapture.Text.Case

namespace ChangeCapture

namespace Identifier

def lengthLimit : Nat := 128

def isNameStart (c : CodePoint) : Bool := c.isLetter

def isNamePart (c : CodePoint) : Bool := c.isLetter || c.isDigit || c = '_'

def isName : Text → Bool
  | [] => false
  | c :: rest => isNameStart c && rest.all isNamePart

def accepts (text : Text) : Bool :=
  text.length ≤ lengthLimit && isName text.withoutFinalBreak

end Identifier

namespace Window

def isToken (text : Text) : Bool :=
  match text.span CodePoint.isDigit with
  | (digits, [unit]) => !digits.isEmpty && unit = 'm'
  | _ => false

def accepts (text : Text) : Bool := isToken text.withoutFinalBreak

-- What stands before a window's last code point is its length in minutes. With a
-- line feed at the end that is no number; a run of digits may be too long for one.
def minutes (window : Text) : Except IntegerFault Int := Integer.read 10 window.dropLast

end Window

end ChangeCapture
