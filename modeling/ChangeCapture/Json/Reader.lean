import ChangeCapture.Json.Basic
import ChangeCapture.Number.Integer

namespace ChangeCapture.Json

inductive Fault where
  | expectingValue
  | extraData
  | expectingName
  | expectingColon
  | expectingComma
  | unterminatedText
  | controlCharacter
  | unknownEscape
  | unknownUnicodeEscape
  | byteOrderMark
  deriving DecidableEq, Repr

def Fault.message : Fault → Text
  | .expectingValue => "Expecting value"
  | .extraData => "Extra data"
  | .expectingName => "Expecting property name enclosed in double quotes"
  | .expectingColon => "Expecting ':' delimiter"
  | .expectingComma => "Expecting ',' delimiter"
  | .unterminatedText => "Unterminated string starting at"
  | .controlCharacter => "Invalid control character at"
  | .unknownEscape => "Invalid \\escape"
  | .unknownUnicodeEscape => "Invalid \\uXXXX escape"
  | .byteOrderMark => "Unexpected UTF-8 BOM (decode using utf-8-sig)"

-- Reading stops at a fault, whose place is given by the length of the text from
-- there on, or at an integer that is too long.
inductive Stop where
  | fault (fault : Fault) (left : Nat)
  | longInteger (digits : Nat)
  deriving DecidableEq, Repr

abbrev Reading (α : Type) := Except Stop (α × Text)

def stopAt {α : Type} (fault : Fault) (text : Text) : Except Stop α := .error (.fault fault text.length)

def isGap (c : CodePoint) : Bool := c = ' ' || c = '\t' || c = '\n' || c = '\r'

def skipGaps (text : Text) : Text := text.dropWhile isGap

def unit? (a b c d : CodePoint) : Option Nat := do
  let a ← a.hexDigit?
  let b ← b.hexDigit?
  let c ← c.hexDigit?
  let d ← d.hexDigit?
  pure (a * 4096 + b * 256 + c * 16 + d)

def isHighHalf (n : Nat) : Bool := 0xD800 ≤ n && n < 0xDC00

def isLowHalf (n : Nat) : Bool := 0xDC00 ≤ n && n < 0xE000

def joinHalves (high low : Nat) : CodePoint :=
  .ofNat (0x10000 + (high - 0xD800) * 0x400 + (low - 0xDC00))

def simpleEscape? (c : CodePoint) : Option CodePoint :=
  if c = '"' ∨ c = '\\' ∨ c = '/' then some c
  else if c = 'b' then some '\x08'
  else if c = 'f' then some '\x0c'
  else if c = 'n' then some '\n'
  else if c = 'r' then some '\r'
  else if c = 't' then some '\t'
  else none

def push (c : CodePoint) : Text × Text → Text × Text
  | (read, rest) => (c :: read, rest)

-- A text up to its closing quote. `opened` is the length of the document from the
-- opening quote on, the place that is blamed when no closing quote comes. Four hex
-- digits must be followed by something; two escapes that are a high and a low half
-- make one code point, and other halves stay alone.
def readText (opened : Nat) : Text → Reading Text
  | [] => .error (.fault .unterminatedText opened)
  | c :: rest =>
    if c = '"' then .ok ([], rest)
    else if c = '\\' then
      match rest with
      | [] => .error (.fault .unterminatedText opened)
      | mark :: rest =>
        if mark = 'u' then
          match rest with
          | h₁ :: h₂ :: h₃ :: h₄ :: next :: rest =>
            match unit? h₁ h₂ h₃ h₄ with
            | none => .error (.fault .unknownUnicodeEscape (rest.length + 6))
            | some high =>
              match next, rest with
              | slash, mark :: l₁ :: l₂ :: l₃ :: l₄ :: after :: rest =>
                if isHighHalf high ∧ slash = '\\' ∧ mark = 'u' then
                  match unit? l₁ l₂ l₃ l₄ with
                  | none => .error (.fault .unknownUnicodeEscape (rest.length + 6))
                  | some low =>
                    if isLowHalf low then (readText opened (after :: rest)).map (push (joinHalves high low))
                    else (readText opened (slash :: mark :: l₁ :: l₂ :: l₃ :: l₄ :: after :: rest)).map
                      (push (.ofNat high))
                else (readText opened (slash :: mark :: l₁ :: l₂ :: l₃ :: l₄ :: after :: rest)).map
                  (push (.ofNat high))
              | next, rest => (readText opened (next :: rest)).map (push (.ofNat high))
          | short => .error (.fault .unknownUnicodeEscape (short.length + 1))
        else
          match simpleEscape? mark with
          | some c => (readText opened rest).map (push c)
          | none => .error (.fault .unknownEscape (rest.length + 2))
    else if c.toNat < 0x20 then .error (.fault .controlCharacter (rest.length + 1))
    else (readText opened rest).map (push c)

def readExponent? (text : Text) : Option (Int × Text) :=
  match text with
  | mark :: rest =>
    if mark = 'e' ∨ mark = 'E' then
      let (negative, rest) : Bool × Text :=
        match rest with
        | sign :: more => if sign = '-' then (true, more) else if sign = '+' then (false, more) else (false, rest)
        | [] => (false, [])
      let (digits, rest) := rest.span CodePoint.isDigit
      if digits.isEmpty then none
      else some (if negative then -(Text.digitsValue digits : Int) else Text.digitsValue digits, rest)
    else none
  | [] => none

def readFraction? (text : Text) : Option (Text × Text) :=
  match text with
  | point :: rest =>
    if point = '.' then
      let (digits, rest) := rest.span CodePoint.isDigit
      if digits.isEmpty then none else some (digits, rest)
    else none
  | [] => none

-- A number whose whole digits were read: with neither fraction nor exponent it is
-- an integer, else a double.
def readNumberTail (negative : Bool) (whole rest : Text) : Reading Json :=
  let fraction := readFraction? rest
  let afterFraction := (fraction.map Prod.snd).getD rest
  let exponent := readExponent? afterFraction
  match fraction, exponent with
  | none, none =>
    if digitLimit < whole.length then .error (.longInteger whole.length)
    else
      let n : Int := Text.digitsValue whole
      .ok (.int (if negative then -n else n), rest)
  | _, _ =>
    let places := (fraction.map Prod.fst).getD []
    let power := (exponent.map Prod.fst).getD 0
    let value := Binary64.ofDecimal negative (Text.digitsValue (whole ++ places)) (power - places.length)
    .ok (.double value, (exponent.map Prod.snd).getD afterFraction)

def readNumber (negative : Bool) (start text : Text) : Reading Json :=
  match text with
  | [] => stopAt .expectingValue start
  | c :: rest =>
    if c = '0' then readNumberTail negative [c] rest
    else if c.isDigit then
      let (digits, rest) := rest.span CodePoint.isDigit
      readNumberTail negative (c :: digits) rest
    else stopAt .expectingValue start

def literals : List (Text × Json) := [
  ("null", .null), ("true", .bool true), ("false", .bool false), ("NaN", .double .nan),
  ("Infinity", .double (.infinite false)), ("-Infinity", .double (.infinite true))]

def readLiteral? (text : Text) : Option (Json × Text) :=
  literals.findSome? fun entry => (Text.afterPrefix? entry.1 text).map (entry.2, ·)

mutual
-- A value, its items after an opening bracket or a comma, and its fields. Every
-- call reads at least one code point or hands on to one that does, so twice the
-- length of the text bounds the depth. No other limit is set: how deep a stack may
-- grow is no part of the program.
def readValue : Nat → Text → Reading Json
  | 0, source => stopAt .expectingValue source
  | bound + 1, source =>
    match source with
    | [] => stopAt .expectingValue source
    | c :: rest =>
      if c = '"' then (readText source.length rest).map fun read => (.text read.1, read.2)
      else if c = '[' then
        match skipGaps rest with
        | [] => stopAt .expectingValue []
        | c :: more =>
          if c = ']' then .ok (.list [], more)
          else (readItems bound (c :: more)).map fun read => (.list read.1, read.2)
      else if c = '{' then
        match skipGaps rest with
        | [] => stopAt .expectingName []
        | c :: more =>
          if c = '}' then .ok (.object [], more)
          else (readFields bound (c :: more)).map fun read => (.object (Fields.ofPairs read.1), read.2)
      else
        match readLiteral? source with
        | some read => .ok read
        | none => if c = '-' then readNumber true source rest else readNumber false source source

def readItems : Nat → Text → Reading (List Json)
  | 0, source => stopAt .expectingValue source
  | bound + 1, source =>
    match readValue bound source with
    | .error stop => .error stop
    | .ok (item, rest) =>
      match skipGaps rest with
      | [] => stopAt .expectingComma []
      | c :: more =>
        if c = ']' then .ok ([item], more)
        else if c = ',' then (readItems bound (skipGaps more)).map fun read => (item :: read.1, read.2)
        else stopAt .expectingComma (c :: more)

def readFields : Nat → Text → Reading (List (Text × Json))
  | 0, source => stopAt .expectingName source
  | bound + 1, source =>
    match source with
    | [] => stopAt .expectingName source
    | quote :: inside =>
      if quote = '"' then
        match readText source.length inside with
        | .error stop => .error stop
        | .ok (name, rest) =>
          match skipGaps rest with
          | [] => stopAt .expectingColon []
          | colon :: more =>
            if colon = ':' then
              match readValue bound (skipGaps more) with
              | .error stop => .error stop
              | .ok (value, rest) =>
                match skipGaps rest with
                | [] => stopAt .expectingComma []
                | c :: more =>
                  if c = '}' then .ok ([(name, value)], more)
                  else if c = ',' then
                    (readFields bound (skipGaps more)).map fun read => ((name, value) :: read.1, read.2)
                  else stopAt .expectingComma (c :: more)
            else stopAt .expectingColon (colon :: more)
      else stopAt .expectingName source
end

structure Place where
  line : Nat
  column : Nat
  offset : Nat
  deriving DecidableEq, Repr

def Place.at (text : Text) (offset : Nat) : Place :=
  let before := text.take offset
  ⟨before.count (.char '\n') + 1, (before.reverse.takeWhile (· ≠ .char '\n')).length + 1, offset⟩

inductive ReadError where
  | malformed (fault : Fault) (place : Place)
  | longInteger (digits : Nat)
  deriving DecidableEq, Repr

def ReadError.message : ReadError → Text
  | .malformed cause place =>
    cause.message ++ ": line " ++ Text.ofNat place.line ++ " column " ++ Text.ofNat place.column ++
      " (char " ++ Text.ofNat place.offset ++ ")"
  | .longInteger digits => longIntegerMessage digits

def Stop.located (text : Text) : Stop → ReadError
  | .fault cause left => .malformed cause (Place.at text (text.length - left))
  | .longInteger digits => .longInteger digits

def readAll (text : Text) : Except Stop Json :=
  match text with
  | .char '\uFEFF' :: _ => stopAt .byteOrderMark text
  | _ =>
    match readValue (2 * text.length + 2) (skipGaps text) with
    | .error stop => .error stop
    | .ok (value, rest) =>
      match skipGaps rest with
      | [] => .ok value
      | more => stopAt .extraData more

def read (text : Text) : Except ReadError Json := (readAll text).mapError (Stop.located text)

end ChangeCapture.Json
