import ChangeCapture.Yaml.Block
import ChangeCapture.Yaml.Plain
import ChangeCapture.Yaml.Property
import ChangeCapture.Yaml.Quoted

namespace ChangeCapture.Yaml

-- The pieces of a text. `stop` is the last of them: the end of the text, or the
-- fault beyond which it has no pieces.
inductive Token where
  | directive (directive : Directive)
  | documentStart
  | documentEnd
  | blockSequence
  | blockMapping
  | blockEnd
  | flowSequence
  | flowSequenceEnd
  | flowMapping
  | flowMappingEnd
  | blockEntry
  | flowEntry
  | key
  | value
  | alias (name : Text)
  | anchor (name : Text)
  | tag (handle : Option Text) (suffix : Text)
  | scalar (plain : Bool) (text : Text)
  | stop (fault : Option Fault)
  deriving DecidableEq, Repr

-- A token that turns out to have begun a key when a colon follows it on its line.
-- A key is required where the entries of the innermost block begin.
structure KeyStart where
  token : Nat
  required : Bool
  index : Nat
  line : Nat
  column : Nat

-- Reading a text token by token. `blocks` holds the columns of the open block
-- collections and `keys` the possible start of a key on each level of brackets;
-- tokens are kept last first.
structure Lexer where
  cursor : Cursor
  level : Nat
  blocks : List Nat
  mayStartKey : Bool
  keys : List (Nat × KeyStart)
  tokens : List Token
  count : Nat

namespace Lexer

def inFlow (l : Lexer) : Bool := l.level ≠ 0

def emit (token : Token) (l : Lexer) : Lexer := { l with tokens := token :: l.tokens, count := l.count + 1 }

def moved (rest : Text) (l : Lexer) : Lexer := { l with cursor := l.cursor.upTo rest }

def emitAt (place : Nat) (token : Token) (l : Lexer) : Lexer :=
  let later := l.count - place
  { l with tokens := l.tokens.take later ++ token :: l.tokens.drop later, count := l.count + 1 }

def afterGap (inComment : Bool) : Text → Bool × Text
  | [] => (false, [])
  | c :: rest =>
    if isBreak c then (true, (afterGap false rest).2)
    else if inComment then afterGap true rest
    else if c = ' ' then afterGap false rest
    else if c = '#' then afterGap true rest
    else (false, c :: rest)

def atNext (l : Lexer) : Lexer :=
  let text := match l.cursor.rest with
    | c :: rest => if l.cursor.index = 0 ∧ c = byteOrderMark then rest else c :: rest
    | [] => []
  let (broken, rest) := afterGap false text
  { l.moved rest with mayStartKey := l.mayStartKey || (broken && !l.inFlow) }

def keyReach : Nat := 1024

def isStale (cursor : Cursor) (start : KeyStart) : Bool :=
  start.line ≠ cursor.line || start.index + keyReach < cursor.index

def withFreshKeys (l : Lexer) : Except Fault Lexer :=
  if l.keys.any fun entry => isStale l.cursor entry.2 && entry.2.required then .error .malformed
  else .ok { l with keys := l.keys.filter fun entry => !isStale l.cursor entry.2 }

def key? (l : Lexer) : Option KeyStart := l.keys.lookup l.level

def eraseKey (l : Lexer) : Lexer := { l with keys := l.keys.filter fun entry => entry.1 ≠ l.level }

def withoutKey (l : Lexer) : Except Fault Lexer :=
  match l.key? with
  | some start => if start.required then .error .malformed else .ok l.eraseKey
  | none => .ok l

def withKey (l : Lexer) : Except Fault Lexer :=
  if l.mayStartKey then do
    let required := !l.inFlow && l.blocks.head? = some l.cursor.column
    let start : KeyStart := ⟨l.count, required, l.cursor.index, l.cursor.line, l.cursor.column⟩
    let l ← l.withoutKey
    .ok { l with keys := (l.level, start) :: l.keys }
  else .ok l

def unwoundTo (column : Nat) (l : Lexer) : Lexer :=
  if l.inFlow then l
  else
    let ended := l.blocks.takeWhile (column < ·)
    ended.foldl (fun l _ => l.emit .blockEnd) { l with blocks := l.blocks.drop ended.length }

def unwound (l : Lexer) : Lexer :=
  if l.inFlow then l else l.blocks.foldl (fun l _ => l.emit .blockEnd) { l with blocks := [] }

def isDeeper (column : Nat) (l : Lexer) : Bool :=
  match l.blocks with
  | [] => true
  | open' :: _ => open' < column

def withBlock (token : Token) (l : Lexer) : Lexer :=
  if l.isDeeper l.cursor.column then { l.emit token with blocks := l.cursor.column :: l.blocks } else l

def take (length : Nat) (l : Lexer) : Lexer := { l with cursor := l.cursor.forward length }

def betweenDocuments (l : Lexer) : Except Fault Lexer :=
  l.unwound.withoutKey.map fun l => { l with mayStartKey := false }

def flowStart (token : Token) (l : Lexer) : Except Fault Lexer :=
  l.withKey.map fun l => ({ l with level := l.level + 1, mayStartKey := true }.take 1).emit token

def flowEnd (token : Token) (l : Lexer) : Except Fault Lexer := do
  let l ← l.withoutKey
  match l.level with
  | 0 => .error .malformed
  | level + 1 => .ok (({ l with level := level, mayStartKey := false }.take 1).emit token)

def entry (l : Lexer) : Except Fault Lexer := do
  let l ← { l with mayStartKey := true }.withoutKey
  .ok ((l.take 1).emit .flowEntry)

def blockEntry (l : Lexer) : Except Fault Lexer := do
  if !l.inFlow && !l.mayStartKey then .error .malformed
  else
    let opened := if l.inFlow then l else l.withBlock .blockSequence
    let l ← { opened with mayStartKey := true }.withoutKey
    .ok ((l.take 1).emit .blockEntry)

def explicitKey (l : Lexer) : Except Fault Lexer := do
  if !l.inFlow && !l.mayStartKey then .error .malformed
  else
    let opened := if l.inFlow then l else l.withBlock .blockMapping
    let l ← { opened with mayStartKey := !l.inFlow }.withoutKey
    .ok ((l.take 1).emit .key)

-- A colon makes what began the possible key of its level a key, and opens a
-- mapping there; without one it stands before a value with an empty key.
def colon (l : Lexer) : Except Fault Lexer :=
  match l.key? with
  | some start =>
    let keyed := l.eraseKey.emitAt start.token .key
    let opened :=
      if !l.inFlow && l.isDeeper start.column then
        { keyed.emitAt start.token .blockMapping with blocks := start.column :: l.blocks }
      else keyed
    .ok (({ opened with mayStartKey := false }.take 1).emit .value)
  | none =>
    if l.inFlow then .ok (({ l with mayStartKey := false }.take 1).emit .value)
    else if l.mayStartKey then .ok (((l.withBlock .blockMapping).take 1).emit .value)
    else .error .malformed

def item (token : Token) (rest : Text) (l : Lexer) : Except Fault Lexer :=
  l.withKey.map fun l => ({ l with mayStartKey := false }.moved rest).emit token

def blockScalar (isFolded : Bool) (text : Text) (l : Lexer) : Except Fault Lexer := do
  let l ← { l with mayStartKey := true }.withoutKey
  let (value, rest) ← Block.read isFolded l.blocks.head? text
  .ok ((l.moved rest).emit (.scalar false value))

def plainScalar (l : Lexer) : Except Fault Lexer := do
  let l ← l.withKey
  let indent := match l.blocks with
    | [] => 0
    | column :: _ => column + 1
  let (value, rest, broken) := Plain.read l.inFlow indent l.cursor.rest
  .ok (({ l with mayStartKey := broken }.moved rest).emit (.scalar true value))

-- The marks that begin something else cannot begin a plain scalar, unless a mark
-- of a block has no blank behind it.
def startsPlain (inFlow : Bool) : Text → Bool
  | [] => false
  | c :: rest =>
    if isGap c || isBreak c then false
    else if isOneOf "-?:,[]\x7b\x7d#&*!|>'\"%@`" c then
      !endsWord rest && (c = '-' || (!inFlow && isOneOf "?:" c))
    else true

def token (c : CodePoint) (rest : Text) (l : Lexer) : Except Fault Lexer := do
  let text := c :: rest
  let atMargin := l.cursor.column = 0
  if c = '%' ∧ atMargin then do
    let l ← l.betweenDocuments
    let (directive, rest) ← Property.directive rest
    .ok ((l.moved rest).emit (.directive directive))
  else if atMargin ∧ isMark "---" text then l.betweenDocuments.map fun l => (l.take 3).emit .documentStart
  else if atMargin ∧ isMark "..." text then l.betweenDocuments.map fun l => (l.take 3).emit .documentEnd
  else if c = '[' then l.flowStart .flowSequence
  else if c = '\x7b' then l.flowStart .flowMapping
  else if c = ']' then l.flowEnd .flowSequenceEnd
  else if c = '\x7d' then l.flowEnd .flowMappingEnd
  else if c = ',' then l.entry
  else if c = '-' ∧ endsWord rest then l.blockEntry
  else if c = '?' ∧ (l.inFlow ∨ endsWord rest) then l.explicitKey
  else if c = ':' ∧ (l.inFlow ∨ endsWord rest) then l.colon
  else if c = '*' then do
    let (name, rest) ← Property.name rest
    l.item (.alias name) rest
  else if c = '&' then do
    let (name, rest) ← Property.name rest
    l.item (.anchor name) rest
  else if c = '!' then do
    let ((handle, suffix), rest) ← Property.tag rest
    l.item (.tag handle suffix) rest
  else if (c = '|' ∨ c = '>') ∧ !l.inFlow then l.blockScalar (c = '>') rest
  else if c = '\'' ∨ c = '"' then do
    let (value, rest) ← Quoted.read (c = '"') rest
    l.item (.scalar false value) rest
  else if startsPlain l.inFlow text then l.plainScalar
  else .error .malformed

def start (text : Text) : Lexer := ⟨⟨text, 0, 0, 0⟩, 0, [], true, [], [], 0⟩

def settled (l : Lexer) : Nat :=
  (l.keys.filter fun entry => !isStale l.cursor entry.2).foldl (fun least entry => min least entry.2.token) l.count

-- A fault is met where the first token stands that is not settled, since what
-- follows a possible key is read before the key itself is told.
def stopped (fault : Fault) (l : Lexer) : List Token := l.tokens.reverse.take l.settled ++ [.stop (some fault)]

def step (l : Lexer) : Except Fault (Lexer × Bool) := do
  let l ← l.atNext.withFreshKeys
  let l := l.unwoundTo l.cursor.column
  match l.cursor.rest with
  | [] => l.betweenDocuments.map (·, true)
  | c :: rest => (l.token c rest).map (·, false)

def run : Nat → Lexer → List Token
  | 0, l => l.stopped .malformed
  | fuel + 1, l =>
    match l.step with
    | .error fault => l.stopped fault
    | .ok (l, true) => (Token.stop none :: l.tokens).reverse
    | .ok (l, false) => run fuel l

end Lexer

def Token.ofText (text : Text) : List Token :=
  if text.all isPrintable then Lexer.run (text.length + 1) (.start text) else [.stop (some .malformed)]

end ChangeCapture.Yaml
