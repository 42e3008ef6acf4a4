import ChangeCapture.Failure.Mishap

namespace ChangeCapture.Yaml

inductive Fault where
  | malformed
  | refused (mishap : Mishap)
  deriving DecidableEq, Repr

-- The code points that end a line. Carriage returns are no longer among them,
-- since the lines of a file are read as ended by line feeds.
def isBreak (c : CodePoint) : Bool := c.toNat = 0x0A || c.toNat = 0x85 || c.toNat = 0x2028 || c.toNat = 0x2029

def isGap (c : CodePoint) : Bool := c.toNat = 0x20 || c.toNat = 0x09

def breakRead (c : CodePoint) : CodePoint := if c.toNat = 0x85 then '\n' else c

def byteOrderMark : CodePoint := .ofNat 0xFEFF

def isPrintable (c : CodePoint) : Bool :=
  inRanges [(0x09, 0x0A), (0x0D, 0x0D), (0x20, 0x7E), (0x85, 0x85), (0xA0, 0xD7FF), (0xE000, 0xFFFD),
    (0x10000, 0x10FFFF)] c.toNat

def isOneOf (marks : String) (c : CodePoint) : Bool := (Text.ofString marks).contains c

def endsLine : Text → Bool
  | [] => true
  | c :: _ => isBreak c

def endsWord : Text → Bool
  | [] => true
  | c :: _ => isGap c || isBreak c

def startsWithOneOf (marks : String) : Text → Bool
  | [] => false
  | c :: _ => isOneOf marks c

def isMark (mark : String) (text : Text) : Bool :=
  match Text.afterPrefix? mark text with
  | some rest => endsWord rest
  | none => false

def isDocumentMark (text : Text) : Bool := isMark "---" text || isMark "..." text

def afterSpaces (text : Text) : Text := text.dropWhile (· = .char ' ')

def afterLine (text : Text) : Text := text.dropWhile fun c => !isBreak c

-- How a run of line breaks reads when it is folded: the first one alone is a
-- space, and before others it is dropped.
def folded (first : CodePoint) (later : Text) : Text :=
  if breakRead first ≠ .char '\n' then first :: later
  else if later.isEmpty then " " else later

structure Cursor where
  rest : Text
  index : Nat
  line : Nat
  column : Nat

namespace Cursor

def forward : Nat → Cursor → Cursor
  | 0, cursor => cursor
  | count + 1, cursor =>
    match cursor.rest with
    | [] => cursor
    | c :: rest =>
      if isBreak c then forward count ⟨rest, cursor.index + 1, cursor.line + 1, 0⟩
      else if c = byteOrderMark then forward count ⟨rest, cursor.index + 1, cursor.line, cursor.column⟩
      else forward count ⟨rest, cursor.index + 1, cursor.line, cursor.column + 1⟩

def upTo (cursor : Cursor) (rest : Text) : Cursor :=
  cursor.forward (cursor.rest.length - rest.length)

end Cursor

end ChangeCapture.Yaml
