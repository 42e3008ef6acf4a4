namespace ChangeCapture.Sorting

variable {α : Type}

def insert (le : α → α → Bool) (item : α) : List α → List α
  | [] => [item]
  | next :: rest => if le item next then item :: next :: rest else next :: insert le item rest

def sort (le : α → α → Bool) (items : List α) : List α := items.foldr (insert le) []

end ChangeCapture.Sorting

namespace ChangeCapture

-- A code point of a document: a character, or one half of a surrogate pair that
-- stands alone. Escapes in a document may spell such a half, so it is a value
-- here; only writing it as UTF-8 is refused.
inductive CodePoint where
  | char (value : Char)
  | surrogate (offset : Fin 0x800)
  deriving DecidableEq, Repr

instance : Coe Char CodePoint := ⟨.char⟩

instance : Inhabited CodePoint := ⟨.char ' '⟩

abbrev Text := List CodePoint

def Text.ofString (s : String) : Text := s.toList.map .char

instance : Coe String Text := ⟨Text.ofString⟩

namespace CodePoint

def toNat : CodePoint → Nat
  | .char c => c.toNat
  | .surrogate offset => 0xD800 + offset.val

def ofNat? (n : Nat) : Option CodePoint :=
  if half : 0xD800 ≤ n ∧ n < 0xE000 then some (.surrogate ⟨n - 0xD800, by omega⟩)
  else if valid : n.isValidChar then some (.char (Char.ofNatAux n valid))
  else none

def ofNat (n : Nat) : CodePoint := (ofNat? n).getD (.char (Char.ofNat 0xFFFD))

def digit? (c : CodePoint) : Option Nat :=
  if 0x30 ≤ c.toNat ∧ c.toNat ≤ 0x39 then some (c.toNat - 0x30) else none

def isDigit (c : CodePoint) : Bool := 0x30 ≤ c.toNat && c.toNat ≤ 0x39

def isLowerLetter (c : CodePoint) : Bool := 0x61 ≤ c.toNat && c.toNat ≤ 0x7A

def isUpperLetter (c : CodePoint) : Bool := 0x41 ≤ c.toNat && c.toNat ≤ 0x5A

def isLetter (c : CodePoint) : Bool := c.isLowerLetter || c.isUpperLetter

def hexDigit? (c : CodePoint) : Option Nat :=
  if 0x30 ≤ c.toNat ∧ c.toNat ≤ 0x39 then some (c.toNat - 0x30)
  else if 0x61 ≤ c.toNat ∧ c.toNat ≤ 0x66 then some (c.toNat - 0x57)
  else if 0x41 ≤ c.toNat ∧ c.toNat ≤ 0x46 then some (c.toNat - 0x37)
  else none

def isAscii (c : CodePoint) : Bool := c.toNat < 0x80

def lowerAscii (c : CodePoint) : CodePoint := if c.isUpperLetter then ofNat (c.toNat + 0x20) else c

end CodePoint

def inRanges (table : List (Nat × Nat)) (n : Nat) : Bool :=
  table.any fun range => range.1 ≤ n && n ≤ range.2

namespace Text

def lt : Text → Text → Bool
  | _, [] => false
  | [], _ :: _ => true
  | a :: s, b :: t => a.toNat < b.toNat || (a.toNat == b.toNat && lt s t)

def le (s t : Text) : Bool := !lt t s

def sorted (texts : List Text) : List Text := Sorting.sort le texts

def joined (separator : Text) : List Text → Text
  | [] => []
  | [only] => only
  | first :: rest => first ++ separator ++ joined separator rest

def afterPrefix? : Text → Text → Option Text
  | [], rest => some rest
  | _ :: _, [] => none
  | a :: start, b :: rest => if a = b then afterPrefix? start rest else none

def startsWith (text start : Text) : Bool := (afterPrefix? start text).isSome

-- Occurrences counted from the left without overlap; `skip` code points still
-- belong to the last one found.
def occurrencesFrom (part : Text) (skip : Nat) : Text → Nat
  | [] => 0
  | c :: rest =>
    match skip with
    | left + 1 => occurrencesFrom part left rest
    | 0 =>
      if startsWith (c :: rest) part then occurrencesFrom part (part.length - 1) rest + 1
      else occurrencesFrom part 0 rest

def occurrences (part text : Text) : Nat := occurrencesFrom part 0 text

def replacedFrom (part replacement : Text) (skip : Nat) : Text → Text
  | [] => []
  | c :: rest =>
    match skip with
    | left + 1 => replacedFrom part replacement left rest
    | 0 =>
      if startsWith (c :: rest) part then
        replacement ++ replacedFrom part replacement (part.length - 1) rest
      else c :: replacedFrom part replacement 0 rest

def replaced (part replacement text : Text) : Text := replacedFrom part replacement 0 text

def splitOn (separator : CodePoint) : Text → List Text
  | [] => [[]]
  | c :: rest =>
    if c = separator then [] :: splitOn separator rest
    else match splitOn separator rest with
      | piece :: pieces => (c :: piece) :: pieces
      | [] => [[c]]

def isAscii (text : Text) : Bool := text.all CodePoint.isAscii

-- A pattern's end also matches before one line feed that closes the text.
def withoutFinalBreak (text : Text) : Text :=
  if text.getLast? = some (.char '\n') then text.dropLast else text

end Text

end ChangeCapture
