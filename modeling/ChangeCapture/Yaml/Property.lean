import ChangeCapture.Number.Integer
import ChangeCapture.Text.Utf8
import ChangeCapture.Yaml.Cursor

namespace ChangeCapture.Yaml

inductive Directive where
  | version (major : Int)
  | handle (name stem : Text)
  | other
  deriving DecidableEq, Repr

namespace Property

def isWordMark (c : CodePoint) : Bool := c.isDigit || c.isLetter || isOneOf "-_" c

def isAddressMark (c : CodePoint) : Bool :=
  c.isDigit || c.isLetter || isOneOf "-;/?:@&=+$,_.!~*'()[]" c

def endsOnSpace (text : Text) : Bool := endsLine text || startsWithOneOf " " text

def name (text : Text) : Except Fault (Text × Text) :=
  let found := text.takeWhile isWordMark
  let rest := text.dropWhile isWordMark
  if found.isEmpty then .error .malformed
  else if endsWord rest || startsWithOneOf "?:,]\x7d%@`" rest then .ok (found, rest)
  else .error .malformed

-- A handle is one mark, or a word between two of them. A directive may close a
-- handle of one mark with a space.
def handle : Text → Except Fault (Text × Text)
  | [] => .error .malformed
  | c :: rest =>
    if c ≠ '!' then .error .malformed
    else if startsWithOneOf " " rest then .ok ([c], rest)
    else match rest.dropWhile isWordMark with
      | last :: after =>
        if last = '!' then .ok (c :: rest.takeWhile isWordMark ++ [last], after) else .error .malformed
      | [] => .error .malformed

def escapedBytes : Text → Except Fault (Bytes × Text)
  | percent :: high :: low :: rest =>
    if percent = '%' then
      match high.hexDigit?, low.hexDigit? with
      | some h, some l => (escapedBytes rest).map fun (bytes, rest) => (.ofNat (h * 16 + l) :: bytes, rest)
      | _, _ => .error .malformed
    else .ok ([], percent :: high :: low :: rest)
  | text => if startsWithOneOf "%" text then .error .malformed else .ok ([], text)

def addressFrom : Nat → Text → Except Fault (Text × Text)
  | 0, text => .ok ([], text)
  | _ + 1, [] => .ok ([], [])
  | fuel + 1, c :: rest =>
    if isAddressMark c then (addressFrom fuel rest).map fun (later, rest) => (c :: later, rest)
    else if c = '%' then do
      let (bytes, rest) ← escapedBytes (c :: rest)
      match Utf8.decode bytes with
      | .ok text =>
        let (later, rest) ← addressFrom fuel rest
        .ok (text ++ later, rest)
      | .error _ => .error .malformed
    else .ok ([], c :: rest)

def address (text : Text) : Except Fault (Text × Text) := do
  let (found, rest) ← addressFrom text.length text
  if rest.length = text.length then .error .malformed else .ok (found, rest)

def hasHandle (text : Text) : Bool :=
  (text.takeWhile fun c => !isBreak c && c ≠ .char ' ').contains (.char '!')

def tag (text : Text) : Except Fault ((Option Text × Text) × Text) := do
  let mark : CodePoint := .char '!'
  let (found, rest) ←
    match text with
    | [] => .ok ((none, [mark]), [])
    | c :: after =>
      if c = '<' then do
        let (suffix, rest) ← address after
        match rest with
        | last :: rest => if last = '>' then .ok ((none, suffix), rest) else .error Fault.malformed
        | [] => .error Fault.malformed
      else if endsWord text then .ok ((none, [mark]), text)
      else if hasHandle text then do
        let (name, rest) ← handle (mark :: text)
        let (suffix, rest) ← address rest
        .ok ((some name, suffix), rest)
      else do
        let (suffix, rest) ← address text
        .ok ((some [mark], suffix), rest)
  if endsOnSpace rest then .ok (found, rest) else .error .malformed

def number (text : Text) : Except Fault (Int × Text) :=
  let digits := text.takeWhile CodePoint.isDigit
  if digits.isEmpty then .error .malformed
  else match Integer.read 10 digits with
    | .ok value => .ok (value, text.dropWhile CodePoint.isDigit)
    | .error fault => .error (.refused (.integer fault))

def version (text : Text) : Except Fault (Directive × Text) := do
  let (major, rest) ← number (afterSpaces text)
  match rest with
  | point :: rest =>
    if point = '.' then do
      let (_, rest) ← number rest
      if endsOnSpace rest then .ok (.version major, rest) else .error .malformed
    else .error .malformed
  | [] => .error .malformed

def handleLine (text : Text) : Except Fault (Directive × Text) := do
  let (name, rest) ← handle (afterSpaces text)
  if startsWithOneOf " " rest then do
    let (stem, rest) ← address (afterSpaces rest)
    if endsOnSpace rest then .ok (.handle name stem, rest) else .error .malformed
  else .error .malformed

def directive (text : Text) : Except Fault (Directive × Text) := do
  let name := text.takeWhile isWordMark
  let rest := text.dropWhile isWordMark
  if name.isEmpty || !endsOnSpace rest then .error .malformed
  else do
    let (found, rest) ←
      if name = Text.ofString "YAML" then version rest
      else if name = Text.ofString "TAG" then handleLine rest
      else .ok (.other, afterLine rest)
    let rest := afterSpaces rest
    let rest := if startsWithOneOf "#" rest then afterLine rest else rest
    if endsLine rest then .ok (found, rest.drop 1) else .error .malformed

end Property

end ChangeCapture.Yaml
