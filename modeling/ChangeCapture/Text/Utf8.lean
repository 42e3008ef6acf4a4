import ChangeCapture.Text.Decimal

namespace ChangeCapture

abbrev Bytes := List UInt8

-- What rules out a byte sequence, and where: `first` is the index of the faulty
-- character's first byte and `count` the number of its bytes that were taken.
inductive Utf8Cause where
  | invalidStart
  | invalidContinuation
  | unexpectedEnd
  deriving DecidableEq, Repr

structure Utf8DecodeError where
  cause : Utf8Cause
  byte : UInt8
  first : Nat
  count : Nat
  deriving DecidableEq, Repr

structure Utf8EncodeError where
  half : CodePoint
  first : Nat
  count : Nat
  deriving DecidableEq, Repr

namespace Utf8

-- The bytes a first byte asks for after itself, with the span that the second one
-- must lie in. The spans shut out overlong forms, surrogates and large numbers.
inductive Lead where
  | ascii
  | sequence (more : Nat) (low high : UInt8)
  | invalid

def lead (b : UInt8) : Lead :=
  if b < 0x80 then .ascii
  else if b < 0xC2 then .invalid
  else if b < 0xE0 then .sequence 1 0x80 0xBF
  else if b = 0xE0 then .sequence 2 0xA0 0xBF
  else if b = 0xED then .sequence 2 0x80 0x9F
  else if b < 0xF0 then .sequence 2 0x80 0xBF
  else if b = 0xF0 then .sequence 3 0x90 0xBF
  else if b < 0xF4 then .sequence 3 0x80 0xBF
  else if b = 0xF4 then .sequence 3 0x80 0x8F
  else .invalid

def leadBits (b : UInt8) : Nat :=
  if b < 0xE0 then b.toNat - 0xC0 else if b < 0xF0 then b.toNat - 0xE0 else b.toNat - 0xF0

-- Decoding byte by byte. `owed` is the state of a character in progress: its value
-- so far, the bytes still to come, the span of the next one, its first byte, the
-- index of that byte and the number of bytes taken.
structure Owed where
  value : Nat
  more : Nat
  low : UInt8
  high : UInt8
  byte : UInt8
  first : Nat
  count : Nat

def decodeFrom (index : Nat) (owed : Option Owed) : Bytes → Except Utf8DecodeError Text
  | [] =>
    match owed with
    | none => .ok []
    | some o => .error ⟨.unexpectedEnd, o.byte, o.first, o.count⟩
  | b :: rest =>
    match owed with
    | none =>
      match lead b with
      | .ascii => (decodeFrom (index + 1) none rest).map (.ofNat b.toNat :: ·)
      | .invalid => .error ⟨.invalidStart, b, index, 1⟩
      | .sequence more low high =>
        decodeFrom (index + 1) (some ⟨leadBits b, more, low, high, b, index, 1⟩) rest
    | some o =>
      if b < o.low ∨ o.high < b then .error ⟨.invalidContinuation, o.byte, o.first, o.count⟩
      else
        let value := o.value * 64 + (b.toNat - 0x80)
        match o.more with
        | left + 2 =>
          decodeFrom (index + 1) (some ⟨value, left + 1, 0x80, 0xBF, o.byte, o.first, o.count + 1⟩) rest
        | _ => (decodeFrom (index + 1) none rest).map (.ofNat value :: ·)

def encodeOne (c : Char) : Bytes :=
  let n := c.toNat
  if n < 0x80 then [.ofNat n]
  else if n < 0x800 then [.ofNat (0xC0 + n / 64), .ofNat (0x80 + n % 64)]
  else if n < 0x10000 then
    [.ofNat (0xE0 + n / 4096), .ofNat (0x80 + n / 64 % 64), .ofNat (0x80 + n % 64)]
  else
    [.ofNat (0xF0 + n / 262144), .ofNat (0x80 + n / 4096 % 64), .ofNat (0x80 + n / 64 % 64),
      .ofNat (0x80 + n % 64)]

def isHalf : CodePoint → Bool
  | .surrogate _ => true
  | .char _ => false

def encodeFrom (index : Nat) : Text → Except Utf8EncodeError Bytes
  | [] => .ok []
  | .char c :: rest => (encodeFrom (index + 1) rest).map (encodeOne c ++ ·)
  | half@(.surrogate _) :: rest => .error ⟨half, index, (rest.takeWhile isHalf).length + 1⟩

-- In the name of a file, a half from U+DC80 to U+DCFF stands for a byte that is no
-- part of a character.
def strayByte? (c : CodePoint) : Option UInt8 :=
  if 0xDC80 ≤ c.toNat ∧ c.toNat ≤ 0xDCFF then some (.ofNat (c.toNat - 0xDC00)) else none

def encodeNameFrom (index : Nat) : Text → Except Utf8EncodeError Bytes
  | [] => .ok []
  | .char c :: rest => (encodeNameFrom (index + 1) rest).map (encodeOne c ++ ·)
  | half@(.surrogate _) :: rest =>
    match strayByte? half with
    | some b => (encodeNameFrom (index + 1) rest).map (b :: ·)
    | none => .error ⟨half, index, (rest.takeWhile isHalf).length + 1⟩

def decode (bytes : Bytes) : Except Utf8DecodeError Text := decodeFrom 0 none bytes

def encode (text : Text) : Except Utf8EncodeError Bytes := encodeFrom 0 text

def encodeName (text : Text) : Except Utf8EncodeError Bytes := encodeNameFrom 0 text

end Utf8

def Utf8Cause.message : Utf8Cause → Text
  | .invalidStart => "invalid start byte"
  | .invalidContinuation => "invalid continuation byte"
  | .unexpectedEnd => "unexpected end of data"

def Utf8DecodeError.message (e : Utf8DecodeError) (origin : Nat) : Text :=
  let first := e.first - origin
  let place : Text :=
    if e.count = 1 then "byte 0x" ++ Text.hex 2 e.byte.toNat ++ " in position " ++ Text.ofNat first
    else "bytes in position " ++ Text.ofNat first ++ "-" ++ Text.ofNat (first + e.count - 1)
  "'utf-8' codec can't decode " ++ place ++ ": " ++ e.cause.message

def Utf8EncodeError.message (e : Utf8EncodeError) : Text :=
  let place : Text :=
    if e.count = 1 then
      "character '\\u" ++ Text.hex 4 e.half.toNat ++ "' in position " ++ Text.ofNat e.first
    else
      "characters in position " ++ Text.ofNat e.first ++ "-" ++ Text.ofNat (e.first + e.count - 1)
  "'utf-8' codec can't encode " ++ place ++ ": surrogates not allowed"

end ChangeCapture
