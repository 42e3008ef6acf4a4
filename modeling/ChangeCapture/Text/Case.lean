import ChangeCapture.Text.CaseMap

namespace ChangeCapture

namespace CodePoint

def lowerOne (c : CodePoint) : CodePoint :=
  if c.isAscii then (if c.isUpperLetter then .ofNat (c.toNat + 0x20) else c)
  else match CaseRun.shifted? lowerRuns c.toNat with
    | some n => .ofNat n
    | none => c

def upperOne (c : CodePoint) : CodePoint :=
  if c.isAscii then (if c.isLowerLetter then .ofNat (c.toNat - 0x20) else c)
  else match CaseRun.shifted? upperRuns c.toNat with
    | some n => .ofNat n
    | none => c

def upper (c : CodePoint) : Text :=
  if c.isAscii then [c.upperOne]
  else match upperSequences.lookup c.toNat with
    | some sequence => sequence.map .ofNat
    | none => [c.upperOne]

def lower (c : CodePoint) : Text :=
  if c.toNat = 0x130 then [.ofNat 0x69, .ofNat 0x307] else [c.lowerOne]

def isCaseIgnorable (c : CodePoint) : Bool := inRanges caseIgnorableRanges c.toNat

def isCased (c : CodePoint) : Bool := inRanges casedRanges c.toNat

-- Three pairs of letters are the same letter although neither is the upper or
-- lower case of the other.
def pairedLetter (n : Nat) : Nat :=
  if n = 0x1FD3 then 0x390 else if n = 0x1FE3 then 0x3B0 else if n = 0xFB05 then 0xFB06 else n

def foldKey (c : CodePoint) : Nat :=
  if c.toNat = 0x130 then 0x49 else pairedLetter c.lowerOne.upperOne.toNat

def sameLetter (a b : CodePoint) : Bool := a.foldKey == b.foldKey

end CodePoint

namespace Text

def upper (text : Text) : Text := text.flatMap CodePoint.upper

-- A capital sigma ends its word when a cased letter stands before it and none
-- after it, marks aside.
def endsWord (before after : Text) : Bool :=
  let cased := fun
    | [] => false
    | c :: _ => CodePoint.isCased c
  cased (before.dropWhile CodePoint.isCaseIgnorable) &&
    !cased (after.dropWhile CodePoint.isCaseIgnorable)

def lowerFrom (before : Text) : Text → Text
  | [] => []
  | c :: rest =>
    let small : Text :=
      if c.toNat = 0x3A3 then [.ofNat (if endsWord before rest then 0x3C2 else 0x3C3)] else c.lower
    small ++ lowerFrom (c :: before) rest

def lower (text : Text) : Text := lowerFrom [] text

end Text

end ChangeCapture
