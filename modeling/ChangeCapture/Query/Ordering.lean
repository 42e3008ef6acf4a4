import ChangeCapture.Text.Case
import ChangeCapture.Text.Word

namespace ChangeCapture

namespace Text

def afterWord? : Text → Text → Option Text
  | [], rest => some rest
  | _ :: _, [] => none
  | a :: word, b :: rest => if CodePoint.sameLetter a b then afterWord? word rest else none

def afterBlanks : Text → List Text
  | [] => []
  | c :: rest => if c.isBlank then rest :: afterBlanks rest else []

def afterQuote (text : Text) : List Text :=
  match text with
  | .char '"' :: rest => [text, rest]
  | _ => [text]

end Text

namespace Ordering

def afterKeyword? (text : Text) : Option Text :=
  match Text.afterWord? "ORDER" text with
  | some (c :: rest) =>
    if c.isBlank then Text.afterWord? "BY" (rest.dropWhile CodePoint.isBlank) else none
  | _ => none

-- What follows each place where the two words start a new word.
def found (inWord : Bool) : Text → List Text
  | [] => []
  | c :: rest =>
    let later := found c.isWord rest
    if inWord then later
    else match afterKeyword? (c :: rest) with
      | some after => after :: later
      | none => later

def startsNoWord : Text → Bool
  | [] => true
  | c :: _ => !c.isWord

def isClosing (text : Text) : Bool :=
  match text.dropWhile CodePoint.isBlank with
  | [] => true
  | c :: rest => c = ';' && rest.all CodePoint.isBlank

def closesWith (key after : Text) : Bool :=
  (Text.afterBlanks after).any fun rest =>
    (Text.afterQuote rest).any fun rest =>
      match Text.afterWord? key rest with
      | some rest => (Text.afterQuote rest).any isClosing
      | none => false

def isBy (sql key : Text) : Bool :=
  let places := found false sql
  (places.filter startsNoWord).length = 1 && places.any (closesWith key)

end Ordering

end ChangeCapture
