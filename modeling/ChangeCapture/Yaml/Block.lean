import ChangeCapture.Yaml.Cursor

namespace ChangeCapture.Yaml.Block

inductive Chomping where
  | strip
  | clip
  | keep
  deriving DecidableEq, Repr

def chomping? (c : CodePoint) : Option Chomping :=
  if c = '+' then some .keep else if c = '-' then some .strip else none

structure Header where
  chomping : Chomping
  increment : Option Nat

def increment (text : Text) : Except Fault (Option Nat × Text) :=
  match text with
  | [] => .ok (none, [])
  | c :: rest =>
    match c.digit? with
    | some 0 => .error .malformed
    | some d => .ok (some d, rest)
    | none => .ok (none, c :: rest)

def chomping (text : Text) : Option Chomping × Text :=
  match text with
  | [] => (none, [])
  | c :: rest =>
    match chomping? c with
    | some found => (some found, rest)
    | none => (none, c :: rest)

def endsHeader (text : Text) : Bool := endsLine text || startsWithOneOf " " text

def afterIgnoredLine (text : Text) : Except Fault Text :=
  let rest := afterSpaces text
  let rest := if startsWithOneOf "#" rest then afterLine rest else rest
  match rest with
  | [] => .ok []
  | c :: rest => if isBreak c then .ok rest else .error .malformed

def header (text : Text) : Except Fault (Header × Text) := do
  let (before, rest) := chomping text
  let (found, rest) ← increment rest
  let (after, rest) := if before.isNone && found.isSome then chomping rest else (none, rest)
  if endsHeader rest then
    let rest ← afterIgnoredLine rest
    .ok (⟨(before.or after).getD .clip, found⟩, rest)
  else .error .malformed

-- The blank lines before the first text, with the deepest column that they and
-- the first line reach and the column where they end.
def leading (column deepest : Nat) : Text → Text × Nat × Nat × Text
  | [] => ([], deepest, column, [])
  | c :: rest =>
    if c = ' ' then leading (column + 1) (max deepest (column + 1)) rest
    else if isBreak c then
      let (later, found) := leading 0 deepest rest
      (breakRead c :: later, found)
    else ([], deepest, column, c :: rest)

def blankLines (indent column : Nat) : Text → Text × Nat × Text
  | [] => ([], column, [])
  | c :: rest =>
    if c = ' ' ∧ column < indent then blankLines indent (column + 1) rest
    else if isBreak c then
      let (later, found) := blankLines indent 0 rest
      (breakRead c :: later, found)
    else ([], column, c :: rest)

def lines (isFolded : Bool) (chomping : Chomping) (indent : Nat) : Nat → Text → Text → Text × Text
  | 0, _, rest => ([], rest)
  | fuel + 1, blank, text =>
    let line := text.takeWhile fun c => !isBreak c
    let (ended, rest) : Text × Text := match afterLine text with
      | c :: rest => ([breakRead c], rest)
      | [] => ([], [])
    let (later, column, rest) := blankLines indent 0 rest
    if column = indent ∧ !rest.isEmpty then
      let tight := isFolded && ended = Text.ofString "\n" && !startsWithOneOf " \t" line && !startsWithOneOf " \t" rest
      let joint : Text := if tight then (if later.isEmpty then " " else []) else ended
      let (more, rest) := lines isFolded chomping indent fuel later rest
      (blank ++ line ++ joint ++ more, rest)
    else
      let tail : Text := match chomping with
        | .strip => []
        | .clip => ended
        | .keep => ended ++ later
      (blank ++ line ++ tail, rest)

def read (isFolded : Bool) (outer : Option Nat) (text : Text) : Except Fault (Text × Text) := do
  let (header, text) ← header text
  let least := match outer with
    | some column => column + 1
    | none => 1
  let (indent, blank, column, rest) := match header.increment with
    | some increment =>
      let indent := least + increment - 1
      (indent, blankLines indent 0 text)
    | none =>
      let (blank, deepest, found) := leading 0 0 text
      (max least deepest, blank, found)
  if column = indent ∧ !rest.isEmpty then
    .ok (lines isFolded header.chomping indent rest.length blank rest)
  else if header.chomping = .keep then .ok (blank, rest)
  else .ok ([], rest)

end ChangeCapture.Yaml.Block
