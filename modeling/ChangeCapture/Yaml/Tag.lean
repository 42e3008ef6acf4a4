import ChangeCapture.Yaml.Stamp

namespace ChangeCapture.Yaml

inductive Tag where
  | null
  | bool
  | int
  | float
  | binary
  | timestamp
  | text
  | list
  | mapping
  | set
  | ordered
  | pairs
  | merge
  | default
  | foreign
  deriving DecidableEq, Repr

namespace Tag

def stem : Text := "tag:yaml.org,2002:"

def names : List (String × Tag) := [("null", .null), ("bool", .bool), ("int", .int), ("float", .float),
  ("binary", .binary), ("timestamp", .timestamp), ("str", .text), ("seq", .list), ("map", .mapping), ("set", .set),
  ("omap", .ordered), ("pairs", .pairs), ("merge", .merge), ("value", .default)]

def ofText (text : Text) : Tag :=
  match Text.afterPrefix? stem text with
  | some name => ((names.find? fun entry => Text.ofString entry.1 = name).map Prod.snd).getD .foreign
  | none => .foreign

-- What a plain scalar looks like decides its type. The patterns are tried in the
-- order bool, float, int, merge, null, timestamp, default.
def isWord (words : List String) (text : Text) : Bool := words.any fun word => Text.ofString word = text

def boolWords : List String := ["yes", "Yes", "YES", "no", "No", "NO", "true", "True", "TRUE", "false", "False", "FALSE",
  "on", "On", "ON", "off", "Off", "OFF"]

def nullWords : List String := ["~", "null", "Null", "NULL"]

def withoutSign (text : Text) : Text :=
  match text with
  | c :: rest => if c = '-' ∨ c = '+' then rest else text
  | [] => []

def isDigitOrLine (c : CodePoint) : Bool := c.isDigit || c = '_'

def isWhole : Text → Bool
  | [] => false
  | c :: rest => c.isDigit && rest.all isDigitOrLine

def isSixtieth : Text → Bool
  | [d] => d.isDigit
  | [t, d] => t.isDigit && t.toNat ≤ 0x35 && d.isDigit
  | _ => false

def isSignedExponent : Text → Bool
  | e :: sign :: d :: rest => e.lowerAscii = 'e' && (sign = '-' || sign = '+') && (d :: rest).all CodePoint.isDigit
  | _ => false

def isPlaces : Text → Bool
  | [] => false
  | c :: rest =>
    let exponent := rest.dropWhile isDigitOrLine
    c = '.' && (exponent.isEmpty || isSignedExponent exponent)

def isPointFloat (text : Text) : Bool :=
  match text with
  | [] => false
  | c :: _ => c.isDigit && isPlaces (text.dropWhile isDigitOrLine)

def isFraction : Text → Bool
  | point :: d :: rest =>
    let exponent := rest.dropWhile isDigitOrLine
    point = '.' && d.isDigit && (exponent.isEmpty || isSignedExponent exponent)
  | _ => false

def isSixtyFloat (text : Text) : Bool :=
  match Text.splitOn ':' text with
  | whole :: place :: places =>
    let last := (place :: places).getLastD []
    isWhole whole && (place :: places).dropLast.all isSixtieth &&
      isSixtieth (last.takeWhile (· ≠ .char '.')) &&
      (match last.dropWhile (· ≠ .char '.') with
        | _ :: rest => rest.all isDigitOrLine
        | [] => false)
  | _ => false

def isFloat (text : Text) : Bool :=
  let unsigned := withoutSign text
  isPointFloat unsigned || isFraction text || isSixtyFloat unsigned ||
    isWord [".inf", ".Inf", ".INF"] unsigned || isWord [".nan", ".NaN", ".NAN"] text

def isBased (marker : Char) (digit : CodePoint → Bool) : Text → Bool
  | start :: mark :: d :: rest =>
    start = '0' && mark = marker && (d :: rest).all fun c => digit c || c = '_'
  | _ => false

def isOctal : Text → Bool
  | start :: d :: rest => start = '0' && (d :: rest).all fun c => (c.isDigit && c.toNat ≤ 0x37) || c = '_'
  | _ => false

def isDecimal : Text → Bool
  | [] => false
  | c :: rest => (c = '0' && rest.isEmpty) || (c.isDigit && c ≠ .char '0' && rest.all isDigitOrLine)

def isSixtyInt (text : Text) : Bool :=
  match Text.splitOn ':' text with
  | whole :: place :: places => isWhole whole && whole.head? ≠ some (.char '0') && (place :: places).all isSixtieth
  | _ => false

def isInt (text : Text) : Bool :=
  let unsigned := withoutSign text
  isBased 'b' (fun c => c = '0' || c = '1') unsigned || isOctal unsigned || isDecimal unsigned ||
    isBased 'x' (fun c => c.hexDigit?.isSome) unsigned || isSixtyInt unsigned

def ofPlain (text : Text) : Tag :=
  let body := text.withoutFinalBreak
  if isWord boolWords body then .bool
  else if isFloat body then .float
  else if isInt body then .int
  else if isWord ["<<"] body then .merge
  else if text.isEmpty || isWord nullWords body then .null
  else if Stamp.isPlain text then .timestamp
  else if isWord ["="] body then .default
  else if isWord ["!", "&", "*"] body then .foreign
  else .text

end Tag

end ChangeCapture.Yaml
