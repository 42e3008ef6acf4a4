import ChangeCapture.Yaml.Cursor

namespace ChangeCapture.Yaml.Plain

-- A plain scalar has no quotes. A blank ends a run of it, and so does a colon
-- before one; inside brackets the marks of the collection do too.
def endsRun (inFlow : Bool) : Text → Bool
  | [] => true
  | c :: rest =>
    isGap c || isBreak c ||
      (c = ':' && (endsWord rest || (inFlow && startsWithOneOf ",[]\x7b\x7d" rest))) ||
      (inFlow && isOneOf ",?[]\x7b\x7d" c)

def run (inFlow : Bool) : Text → Text × Text
  | [] => ([], [])
  | c :: rest =>
    if endsRun inFlow (c :: rest) then ([], c :: rest)
    else
      let (taken, rest) := run inFlow rest
      (c :: taken, rest)

def breaks (column : Nat) : Text → Option (Text × Nat) × Text
  | [] => (some ([], column), [])
  | c :: rest =>
    if c = ' ' then breaks (column + 1) rest
    else if isBreak c then
      if isDocumentMark rest then (none, rest)
      else
        let (later, rest) := breaks 0 rest
        (later.map fun (found, column) => (breakRead c :: found, column), rest)
    else (some ([], column), c :: rest)

structure Gap where
  joint : Option Text
  broken : Bool
  rest : Text

def gap (indent : Nat) (text : Text) : Gap :=
  let spaces := text.takeWhile (· = .char ' ')
  let rest := afterSpaces text
  match rest with
  | c :: more =>
    if isBreak c then
      if isDocumentMark more then ⟨none, true, more⟩
      else match breaks 0 more with
        | (some (later, column), rest) =>
          ⟨if column < indent then none else some (folded c later), true, rest⟩
        | (none, rest) => ⟨none, true, rest⟩
    else if spaces.isEmpty then ⟨none, false, rest⟩ else ⟨some spaces, false, rest⟩
  | [] => if spaces.isEmpty then ⟨none, false, rest⟩ else ⟨some spaces, false, rest⟩

-- A plain scalar, what follows it, and whether it ended with its line. The first
-- run has at least one code point, so the length of the text bounds the runs.
def readFrom (inFlow : Bool) (indent : Nat) : Nat → Bool → Text → Text → Text × Text × Bool
  | 0, broken, _, rest => ([], rest, broken)
  | fuel + 1, broken, joint, text =>
    match run inFlow text with
    | ([], rest) => ([], rest, broken)
    | (c :: taken, rest) =>
      let gap := gap (if inFlow then 0 else indent) rest
      match gap.joint with
      | none => (joint ++ c :: taken, gap.rest, gap.broken)
      | some next =>
        if startsWithOneOf "#" gap.rest then (joint ++ c :: taken, gap.rest, gap.broken)
        else
          let (later, rest, broken) := readFrom inFlow indent fuel gap.broken next gap.rest
          (joint ++ c :: taken ++ later, rest, broken)

def read (inFlow : Bool) (indent : Nat) (text : Text) : Text × Text × Bool :=
  readFrom inFlow indent text.length false [] text

end ChangeCapture.Yaml.Plain
