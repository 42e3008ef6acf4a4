import ChangeCapture.Yaml.Cursor

namespace ChangeCapture.Yaml.Quoted

def escapes : List (Char × Nat) := [('0', 0x00), ('a', 0x07), ('b', 0x08), ('t', 0x09), ('\t', 0x09), ('n', 0x0A),
  ('v', 0x0B), ('f', 0x0C), ('r', 0x0D), ('e', 0x1B), (' ', 0x20), ('"', 0x22), ('\\', 0x5C), ('/', 0x2F),
  ('N', 0x85), ('_', 0xA0), ('L', 0x2028), ('P', 0x2029)]

def escaped? (c : CodePoint) : Option CodePoint :=
  (escapes.find? fun entry => CodePoint.char entry.1 = c).map fun entry => .ofNat entry.2

def escapeWidth? (c : CodePoint) : Option Nat :=
  if c = 'x' then some 2 else if c = 'u' then some 4 else if c = 'U' then some 8 else none

def hexValue : Nat → Nat → Text → Option (Nat × Text)
  | 0, value, rest => some (value, rest)
  | _ + 1, _, [] => none
  | width + 1, value, c :: rest =>
    match c.hexDigit? with
    | some d => hexValue width (value * 16 + d) rest
    | none => none

def breaks (atStart : Bool) (text : Text) : Except Fault (Text × Text) :=
  if atStart ∧ isDocumentMark text then .error .malformed
  else match text with
    | [] => .ok ([], [])
    | c :: rest =>
      if isGap c then breaks false rest
      else if isBreak c then (breaks true rest).map fun (later, rest) => (breakRead c :: later, rest)
      else .ok ([], c :: rest)

def gap (text : Text) : Except Fault (Text × Text) :=
  let blanks := text.takeWhile isGap
  match text.dropWhile isGap with
  | [] => .error .malformed
  | c :: rest =>
    if isBreak c then (breaks true rest).map fun (later, rest) => (folded c later, rest)
    else .ok (blanks, c :: rest)

-- What follows a backslash. One at the end of a line takes the break away.
def escape : Text → Except Fault (Text × Text)
  | [] => .error .malformed
  | c :: rest =>
    match escaped? c, escapeWidth? c with
    | some plain, _ => .ok ([plain], rest)
    | none, some width =>
      match hexValue width 0 rest with
      | some (value, rest) =>
        match CodePoint.ofNat? value with
        | some point => .ok ([point], rest)
        | none => .error (.refused (.codePoint value))
      | none => .error .malformed
    | none, none => if isBreak c then breaks true rest else .error .malformed

def readFrom (double : Bool) : Nat → Text → Except Fault (Text × Text)
  | 0, _ => .error .malformed
  | _ + 1, [] => .error .malformed
  | fuel + 1, c :: rest => do
    let literal : Except Fault (Text × Text) := .ok ([c], rest)
    let piece : Option (Except Fault (Text × Text)) :=
      if c = '\'' then
        if double then some literal
        else match rest with
          | next :: rest => if next = '\'' then some (.ok ([c], rest)) else none
          | [] => none
      else if c = '"' then (if double then none else some literal)
      else if c = '\\' then some (if double then escape rest else literal)
      else if isGap c || isBreak c then some (gap (c :: rest))
      else some literal
    match piece with
    | none => .ok ([], rest)
    | some piece =>
      let (text, rest) ← piece
      let (later, rest) ← readFrom double fuel rest
      .ok (text ++ later, rest)

def read (double : Bool) (text : Text) : Except Fault (Text × Text) :=
  readFrom double (text.length + 1) text

end ChangeCapture.Yaml.Quoted
