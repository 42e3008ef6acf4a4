import ChangeCapture.Proofs.Yaml.Line

namespace ChangeCapture.Yaml

-- What is known behind some lines: the columns of the open blocks, and the tokens so far,
-- last ones first.
structure Outline where
  blocks : List Nat
  tokens : List Token

namespace Outline

def emit (token : Token) (outline : Outline) : Outline := { outline with tokens := token :: outline.tokens }

def ended (count : Nat) (outline : Outline) : Outline :=
  ⟨outline.blocks.drop count, List.replicate count .blockEnd ++ outline.tokens⟩

def unwoundTo (column : Nat) (outline : Outline) : Outline := outline.ended (outline.blocks.takeWhile (column < ·)).length

def isDeeper (column : Nat) (outline : Outline) : Bool :=
  match outline.blocks with
  | [] => true
  | block :: _ => block < column

def withBlock (token : Token) (column : Nat) (outline : Outline) : Outline :=
  if outline.isDeeper column then ⟨column :: outline.blocks, token :: outline.tokens⟩ else outline

def withDashes : Nat → Nat → Outline → Outline
  | 0, _, outline => outline
  | dashes + 1, column, outline =>
    withDashes dashes (column + 2) (((outline.unwoundTo column).withBlock .blockSequence column).emit .blockEntry)

def withKey (key : Text) (column : Nat) (outline : Outline) : Outline :=
  ((((outline.unwoundTo column).withBlock .blockMapping column).emit .key).emit (.scalar true key)).emit .value

def closed (outline : Outline) : List Token :=
  (.stop none :: (List.replicate outline.blocks.length .blockEnd ++ outline.tokens)).reverse

def Within (column : Nat) (outline : Outline) : Prop := ∀ block, outline.blocks.head? = some block → block ≤ column

theorem unwoundTo_of_within {column : Nat} {outline : Outline} (within : outline.Within column) :
    outline.unwoundTo column = outline := by
  have none : outline.blocks.takeWhile (column < ·) = [] := by
    cases same : outline.blocks with
    | nil => rfl
    | cons block rest =>
      have inside := within block (by rw [same, List.head?_cons])
      exact List.takeWhile_cons_of_neg (by simpa using inside)
  rw [unwoundTo, none]
  rfl

theorem within_unwoundTo (column : Nat) (outline : Outline) : (outline.unwoundTo column).Within column := by
  obtain ⟨blocks, tokens⟩ := outline
  intro block head
  simp only [unwoundTo, ended] at head
  induction blocks with
  | nil => cases head
  | cons first rest ih =>
    by_cases deeper : column < first
    · rw [List.takeWhile_cons_of_pos (by simpa using deeper)] at head
      exact ih head
    · rw [List.takeWhile_cons_of_neg (by simpa using deeper)] at head
      cases head
      exact Nat.le_of_not_lt deeper

theorem head?_withBlock (token : Token) (column : Nat) (outline : Outline) :
    ((outline.unwoundTo column).withBlock token column).blocks.head? = some column := by
  have within := outline.within_unwoundTo column
  generalize outline.unwoundTo column = outline at within
  cases blocks : outline.blocks with
  | nil => simp [withBlock, isDeeper, blocks]
  | cons block more =>
    have inside := within block (by rw [blocks, List.head?_cons])
    by_cases deeper : block < column
    · simp [withBlock, isDeeper, blocks, deeper]
    · simp [withBlock, isDeeper, blocks, deeper]
      omega

theorem head?_withDashes (dashes column : Nat) (outline : Outline) :
    (outline.withDashes (dashes + 1) column).blocks.head? = some (column + 2 * dashes) := by
  induction dashes generalizing column outline with
  | zero => exact head?_withBlock .blockSequence column outline
  | succ dashes ih =>
    rw [withDashes, ih]
    congr 1
    omega

theorem closed_unwoundTo (column : Nat) (outline : Outline) : (outline.unwoundTo column).closed = outline.closed := by
  have within := (List.takeWhile_prefix (column < ·) (l := outline.blocks)).length_le
  simp only [closed, unwoundTo, ended, List.length_drop, ← List.append_assoc, List.replicate_append_replicate]
  rw [Nat.sub_add_cancel within]

end Outline

def Body.read (column : Nat) : Body → Outline → Outline
  | .opening key, outline => outline.withKey key column
  | .entry key leaf, outline => (outline.withKey key column).emit leaf.token
  | .item leaf, outline => outline.emit leaf.token

def Line.read (outline : Outline) : Line → Outline
  | .blank | .comment _ => outline
  | .filled indent dashes body => body.read (indent + 2 * dashes) (outline.withDashes dashes indent)

def Layout.tokens (lines : List Line) : List Token := (lines.foldl Line.read ⟨[], []⟩).closed

namespace Lexer

variable {l next : Lexer} {keys : List (Nat × KeyStart)} {cursor place : Cursor} {outline : Outline} {tokens : List Token}
  {mayStartKey broken : Bool} {column : Nat} {c : CodePoint} {rest : Text}

def standing (mayStartKey : Bool) (keys : List (Nat × KeyStart)) (cursor : Cursor) (outline : Outline) : Lexer :=
  ⟨cursor, 0, outline.blocks, mayStartKey, keys, outline.tokens, outline.tokens.length⟩

@[simp] theorem cursor_standing : (standing mayStartKey keys cursor outline).cursor = cursor := rfl

@[simp] theorem inFlow_standing : (standing mayStartKey keys cursor outline).inFlow = false := rfl

theorem foldl_emit (columns : List Nat) (l : Lexer) : columns.foldl (fun l _ => l.emit .blockEnd) l =
    { l with tokens := List.replicate columns.length .blockEnd ++ l.tokens, count := l.count + columns.length } := by
  induction columns generalizing l with
  | nil => rfl
  | cons column rest ih =>
    rw [List.foldl_cons, ih]
    simp only [emit, List.length_cons, List.replicate_succ', List.append_assoc, List.singleton_append, Nat.add_assoc,
      Nat.add_comm 1]

theorem unwoundTo_standing (column : Nat) :
    (standing mayStartKey keys cursor outline).unwoundTo column = standing mayStartKey keys cursor (outline.unwoundTo column) := by
  unfold Lexer.unwoundTo Outline.unwoundTo Outline.ended
  simp only [foldl_emit, standing, inFlow, ne_eq, not_true_eq_false, decide_false, Bool.false_eq_true, if_false,
    List.length_append, List.length_replicate, Nat.add_comm]

theorem unwound_standing : (standing mayStartKey keys cursor outline).unwound =
    standing mayStartKey keys cursor (outline.ended outline.blocks.length) := by
  unfold Lexer.unwound Outline.ended
  simp only [foldl_emit, standing, inFlow, ne_eq, not_true_eq_false, decide_false, Bool.false_eq_true, if_false,
    List.length_append, List.length_replicate, Nat.add_comm, List.drop_length]

theorem withBlock_standing (token : Token) : (standing mayStartKey keys cursor outline).withBlock token =
    standing mayStartKey keys cursor (outline.withBlock token cursor.column) := by
  have same : (standing mayStartKey keys cursor outline).isDeeper cursor.column = outline.isDeeper cursor.column := rfl
  unfold Lexer.withBlock Outline.withBlock
  rw [cursor_standing]
  by_cases deeper : outline.isDeeper cursor.column
  · rw [if_pos deeper, if_pos (same.trans deeper)]
    rfl
  · rw [if_neg deeper, if_neg (same ▸ deeper)]

theorem length_forward_le (count : Nat) (cursor : Cursor) : (cursor.forward count).rest.length ≤ cursor.rest.length := by
  induction count generalizing cursor with
  | zero => exact Nat.le_refl _
  | succ count ih =>
    rw [Cursor.forward]
    split
    · exact Nat.le_refl _
    · rename_i c rest same
      rw [same, List.length_cons]
      split
      · exact Nat.le_succ_of_le (ih _)
      · split
        · exact Nat.le_succ_of_le (ih _)
        · exact Nat.le_succ_of_le (ih _)

-- Where the lexer stands once it has passed over what spells no token, and the keys that
-- are still possible there.
def StandsAt (l : Lexer) (mayStartKey : Bool) (keys : List (Nat × KeyStart)) (cursor : Cursor) (outline : Outline) : Prop :=
  l.atNext.withFreshKeys = .ok (standing mayStartKey keys cursor outline)

def Ends (l : Lexer) (tokens : List Token) : Prop := ∀ fuel, l.cursor.rest.length < fuel → l.run fuel = tokens

theorem cursor_of_withFreshKeys (fresh : l.withFreshKeys = .ok next) : next.cursor = l.cursor := by
  unfold withFreshKeys at fresh
  split at fresh
  · cases fresh
  · cases fresh
    rfl

theorem StandsAt.length_le (stands : l.StandsAt mayStartKey keys cursor outline) : cursor.rest.length ≤ l.cursor.rest.length := by
  have same : cursor = l.atNext.cursor := cursor_of_withFreshKeys stands
  rw [same]
  exact length_forward_le _ l.cursor

theorem StandsAt.step_cons (stands : l.StandsAt mayStartKey keys cursor outline) (here : cursor.rest = c :: rest) :
    l.step = ((standing mayStartKey keys cursor (outline.unwoundTo cursor.column)).token c rest).map (·, false) := by
  unfold step
  rw [stands]
  simp only [bind, Except.bind, unwoundTo_standing, cursor_standing, here]

theorem StandsAt.step_nil (stands : l.StandsAt mayStartKey keys cursor outline) (here : cursor.rest = []) :
    l.step = (standing mayStartKey keys cursor (outline.unwoundTo cursor.column)).betweenDocuments.map (·, true) := by
  unfold step
  rw [stands]
  simp only [bind, Except.bind, unwoundTo_standing, cursor_standing, here]

theorem StandsAt.ends (stands : l.StandsAt mayStartKey keys cursor outline) (here : cursor.rest = c :: rest)
    (taken : (standing mayStartKey keys cursor (outline.unwoundTo cursor.column)).token c rest = .ok next)
    (shorter : next.cursor.rest.length < cursor.rest.length) (ends : next.Ends tokens) : l.Ends tokens := by
  intro fuel enough
  have within := stands.length_le
  obtain ⟨fuel, rfl⟩ : ∃ less, fuel = less + 1 := ⟨fuel - 1, by omega⟩
  rw [run, stands.step_cons here, taken]
  exact ends fuel (by omega)

theorem StandsAt.ends_of_nil (stands : l.StandsAt mayStartKey [] cursor outline) (here : cursor.rest = []) :
    l.Ends outline.closed := by
  intro fuel enough
  obtain ⟨fuel, rfl⟩ : ∃ less, fuel = less + 1 := ⟨fuel - 1, by omega⟩
  rw [run, stands.step_nil here, betweenDocuments, unwound_standing, ← outline.closed_unwoundTo cursor.column]
  rfl

theorem atNext_standing (unmarked : place.rest.head? ≠ some byteOrderMark)
    (skipped : afterGap false place.rest = (broken, cursor.rest)) (reaches : place.Reaches cursor) :
    (standing mayStartKey keys place outline).atNext = standing (mayStartKey || broken) keys cursor outline := by
  obtain ⟨rest, index, line, column⟩ := place
  have upTo := reaches.upTo
  cases rest with
  | nil =>
    simp only at skipped
    simp only [atNext, standing, moved, skipped, upTo, inFlow, ne_eq, not_true_eq_false, decide_false, Bool.not_false,
      Bool.and_true]
  | cons c rest =>
    have other : c ≠ byteOrderMark := fun same => unmarked (congrArg some same)
    simp only at skipped
    simp only [atNext, standing, moved, other, and_false, if_false, skipped, upTo, inFlow, ne_eq, not_true_eq_false,
      decide_false, Bool.not_false, Bool.and_true]

theorem standsAt_of_stale (mayStartKey : Bool) (keys : List (Nat × KeyStart)) (outline : Outline)
    (unmarked : place.rest.head? ≠ some byteOrderMark)
    (skipped : afterGap false place.rest = (broken, cursor.rest)) (reaches : place.Reaches cursor)
    (stale : ∀ entry ∈ keys, isStale cursor entry.2 ∧ entry.2.required = false) :
    (standing mayStartKey keys place outline).StandsAt (mayStartKey || broken) [] cursor outline := by
  have optional : (keys.any fun entry => isStale cursor entry.2 && entry.2.required) = false := by
    simpa using fun level start member _ => (stale (level, start) member).2
  have given : keys.filter (fun entry => !isStale cursor entry.2) = [] := by
    simpa using fun level start member => (stale (level, start) member).1
  rw [StandsAt, atNext_standing unmarked skipped reaches, withFreshKeys]
  simp only [standing, optional, given, Bool.false_eq_true, if_false]

theorem standsAt_of_fresh (mayStartKey : Bool) (outline : Outline) (unmarked : place.rest.head? ≠ some byteOrderMark)
    (skipped : afterGap false place.rest = (broken, cursor.rest)) (reaches : place.Reaches cursor)
    (fresh : ∀ entry ∈ keys, isStale cursor entry.2 = false) :
    (standing mayStartKey keys place outline).StandsAt (mayStartKey || broken) keys cursor outline := by
  have optional : (keys.any fun entry => isStale cursor entry.2 && entry.2.required) = false := by
    simpa using fun level start member stale => absurd stale (by simp [fresh (level, start) member])
  have kept : keys.filter (fun entry => !isStale cursor entry.2) = keys := by
    simpa using fun level start member => fresh (level, start) member
  rw [StandsAt, atNext_standing unmarked skipped reaches, withFreshKeys]
  simp only [standing, optional, kept, Bool.false_eq_true, if_false]

theorem token_dash (cursor : Cursor) (outline : Outline) (rest : Text) : (standing true [] cursor outline).token (.char '-') (.char ' ' :: rest) =
    .ok (standing true [] (cursor.forward 1) ((outline.withBlock .blockSequence cursor.column).emit .blockEntry)) := by
  have mark : isMark "---" (.char '-' :: .char ' ' :: rest) = false := rfl
  have dots : isMark "..." (.char '-' :: .char ' ' :: rest) = false := rfl
  have ends : endsWord (.char ' ' :: rest) := rfl
  have taken : (standing true [] cursor outline).blockEntry = .ok (standing true [] (cursor.forward 1)
      ((outline.withBlock .blockSequence cursor.column).emit .blockEntry)) := by
    unfold blockEntry
    rw [withBlock_standing]
    rfl
  unfold token
  simp [mark, dots, ends, taken]

def keyStart (cursor : Cursor) (outline : Outline) : KeyStart :=
  ⟨outline.tokens.length, outline.blocks.head? = some cursor.column, cursor.index, cursor.line, cursor.column⟩

def keysFrom (mayStartKey : Bool) (cursor : Cursor) (outline : Outline) : List (Nat × KeyStart) :=
  if mayStartKey then [(0, keyStart cursor outline)] else []

theorem withKey_standing : (standing mayStartKey [] cursor outline).withKey =
    .ok (standing mayStartKey (keysFrom mayStartKey cursor outline) cursor outline) := by
  cases mayStartKey <;> rfl

def plainIndent (outline : Outline) : Nat :=
  match outline.blocks with
  | [] => 0
  | column :: _ => column + 1

theorem token_word {first : CodePoint} {word : Text} (after : Text) (wordlike : Plain.isWord (first :: word)) :
    (standing mayStartKey keys cursor outline).token first (word ++ after) =
      (standing mayStartKey keys cursor outline).plainScalar := by
  obtain ⟨_, _, same, unmarked, inner⟩ := Plain.isWord_iff.mp wordlike
  cases same
  obtain ⟨-, gap, inLine, -, -⟩ := Plain.isInner_iff.mp (inner first (List.mem_cons_self ..))
  have starts : startsPlain false (first :: (word ++ after)) := by
    have plain : isOneOf "-?:,[]\x7b\x7d#&*!|>'\"%@`" first = false :=
      isOneOf_eq_false_iff.mpr fun mark member => unmarked mark (by revert mark; decide)
    simp only [startsPlain, gap, inLine, plain, Bool.or_false, Bool.false_eq_true, if_false]
  simp only [Plain.marks, Text.ofString, String.reduceToList, List.map_cons, List.map_nil, List.forall_mem_cons] at unmarked
  have dashes : isMark "---" (first :: (word ++ after)) = false := by
    simp [isMark, Text.ofString, Text.afterPrefix?, unmarked.1.symm]
  have dots : isMark "..." (first :: (word ++ after)) = false := by
    simp [isMark, Text.ofString, Text.afterPrefix?, Ne.symm, unmarked]
  unfold token
  simp [unmarked, dashes, dots, starts]

theorem plainScalar_standing {word : Text} (mayStartKey : Bool)
    (reads : Plain.read false (plainIndent outline) cursor.rest = (word, place.rest, broken)) (reaches : cursor.Reaches place) :
    (standing mayStartKey [] cursor outline).plainScalar =
      .ok (standing broken (keysFrom mayStartKey cursor outline) place (outline.emit (.scalar true word))) := by
  unfold plainScalar
  rw [withKey_standing]
  change Except.ok (emit (.scalar true (Plain.read false (plainIndent outline) cursor.rest).1)
    (moved (Plain.read false (plainIndent outline) cursor.rest).2.1
      (standing (Plain.read false (plainIndent outline) cursor.rest).2.2 (keysFrom mayStartKey cursor outline) cursor outline))) = _
  rw [reads]
  simp only [moved, emit, cursor_standing, reaches.upTo]
  rfl

theorem token_quote {passage : Text} (mayStartKey : Bool) (outline : Outline) (inner : ∀ c ∈ passage, Quoted.isInner c) (reaches : cursor.Reaches place) :
    (standing mayStartKey [] cursor outline).token (.char '"') (passage ++ .char '"' :: place.rest) =
      .ok (standing false (keysFrom mayStartKey cursor outline) place (outline.emit (.scalar false passage))) := by
  have taken : (standing mayStartKey [] cursor outline).item (.scalar false passage) place.rest =
      .ok (standing false (keysFrom mayStartKey cursor outline) place (outline.emit (.scalar false passage))) := by
    unfold item
    rw [withKey_standing]
    simp only [Except.map, moved, cursor_standing, reaches.upTo]
    rfl
  have read := Quoted.read_inner place.rest inner
  have dashes : isMark "---" (.char '"' :: (passage ++ .char '"' :: place.rest)) = false := rfl
  have dots : isMark "..." (.char '"' :: (passage ++ .char '"' :: place.rest)) = false := rfl
  unfold token
  simp [read, dashes, dots]
  exact taken

theorem emitAt_standing (token : Token) (later : List Token) (before : Outline) :
    (standing mayStartKey keys cursor ⟨outline.blocks, later ++ before.tokens⟩).emitAt before.tokens.length token =
      standing mayStartKey keys cursor ⟨outline.blocks, later ++ token :: before.tokens⟩ := by
  simp [emitAt, standing, Nat.add_assoc]

theorem colon_standing {key : Text} : (standing false (keysFrom true cursor outline) place (outline.emit (.scalar true key))).colon =
    .ok (standing false [] (place.forward 1)
      ((((outline.withBlock .blockMapping cursor.column).emit .key).emit (.scalar true key)).emit .value)) := by
  have pending : (standing false (keysFrom true cursor outline) place (outline.emit (.scalar true key))).key? =
      some (keyStart cursor outline) := rfl
  have keyed : (standing false (keysFrom true cursor outline) place (outline.emit (.scalar true key))).eraseKey.emitAt
      outline.tokens.length .key = standing false [] place ((outline.emit .key).emit (.scalar true key)) :=
    emitAt_standing .key [.scalar true key] outline
  have opened : (standing false [] place ((outline.emit .key).emit (.scalar true key))).emitAt outline.tokens.length .blockMapping =
      standing false [] place (((outline.emit .blockMapping).emit .key).emit (.scalar true key)) :=
    emitAt_standing .blockMapping [.scalar true key, .key] outline
  have same : (standing false (keysFrom true cursor outline) place (outline.emit (.scalar true key))).isDeeper cursor.column =
    outline.isDeeper cursor.column := rfl
  unfold colon Outline.withBlock
  rw [pending]
  cases deeper : outline.isDeeper cursor.column with
  | true =>
    simp only [keyStart, inFlow_standing, Bool.not_false, Bool.true_and, same.trans deeper, if_true, keyed, opened]
    rfl
  | false =>
    simp only [keyStart, inFlow_standing, Bool.not_false, Bool.true_and, same.trans deeper, Bool.false_eq_true, if_false, keyed]
    rfl

theorem token_colon (cursor place : Cursor) (outline : Outline) (key : Text) (ends : endsWord rest) :
    (standing false (keysFrom true cursor outline) place (outline.emit (.scalar true key))).token (.char ':') rest =
      .ok (standing false [] (place.forward 1)
        ((((outline.withBlock .blockMapping cursor.column).emit .key).emit (.scalar true key)).emit .value)) := by
  have dashes : isMark "---" (.char ':' :: rest) = false := rfl
  have dots : isMark "..." (.char ':' :: rest) = false := rfl
  unfold token
  simp [dashes, dots, ends, colon_standing]

open Yaml.Layout

variable {lines : List Line} {more : Text}

-- The next line, from wherever the lexer comes to it.
def Resumes (lines : List Line) (outline : Outline) (tokens : List Token) : Prop :=
  ∀ (l : Lexer) (cursor : Cursor), l.StandsAt true [] cursor outline → cursor.rest = ahead lines →
    cursor.column = indentAhead lines → l.Ends tokens

-- A key that may have begun on an earlier line, where none has to be.
def Passed (place : Cursor) (keys : List (Nat × KeyStart)) : Prop :=
  ∀ entry ∈ keys, entry.2.line ≤ place.line ∧ entry.2.required = false

theorem Passed.stale (passed : Passed place keys) (later : place.line < cursor.line) :
    ∀ entry ∈ keys, isStale cursor entry.2 ∧ entry.2.required = false := by
  intro entry member
  obtain ⟨line, optional⟩ := passed entry member
  have other : entry.2.line ≠ cursor.line := by omega
  exact ⟨by simp [isStale, other], optional⟩

theorem passed_nil : Passed place [] := List.forall_mem_nil _

theorem ends_of_break (fits : Fits lines) (here : place.rest = .char '\n' :: text lines) (passed : Passed place keys)
    (resumes : Resumes lines outline tokens) : (standing mayStartKey keys place outline).Ends tokens := by
  obtain ⟨start, goes, rest, line, column⟩ := Cursor.exists_reached_break here (by decide)
  obtain ⟨cursor, reaches, rest, column⟩ := exists_ahead fits start rest column
  have later := reaches.line_le
  have skipped : afterGap false place.rest = (true, cursor.rest) := by
    rw [here, rest, ← afterGap_text fits]
    rfl
  have unmarked : place.rest.head? ≠ some byteOrderMark := by
    rw [here, List.head?_cons]
    decide
  have stands := standsAt_of_stale mayStartKey keys outline unmarked skipped (goes.trans reaches)
    (passed.stale (by omega))
  rw [Bool.or_true] at stands
  exact resumes _ cursor stands rest column

theorem passed_keysFrom {margin : Nat} (head : outline.blocks.head? = some margin) (within : margin < cursor.column)
    (line : cursor.line = place.line) : Passed place (keysFrom mayStartKey cursor outline) := by
  intro entry member
  rw [keysFrom] at member
  split at member
  · cases List.mem_singleton.mp member
    refine ⟨Nat.le_of_eq line, ?_⟩
    simp only [keyStart, head, Option.some.injEq, decide_eq_false_iff_not]
    omega
  · cases member

theorem plainIndent_of_head {margin : Nat} (head : outline.blocks.head? = some margin) : plainIndent outline = margin + 1 := by
  obtain ⟨more, same⟩ := List.head?_eq_some_iff.mp head
  rw [plainIndent, same]

theorem inLine_of_isWord {word : Text} (wordlike : Plain.isWord word) : ∀ c ∈ word, isBreak c = false ∧ c ≠ byteOrderMark := by
  obtain ⟨_, _, _, _, inner⟩ := Plain.isWord_iff.mp wordlike
  intro c member
  obtain ⟨-, -, inLine, -, unmarked⟩ := Plain.isInner_iff.mp (inner c member)
  exact ⟨inLine, unmarked⟩

theorem inLine_of_quoted {passage : Text} (inner : ∀ c ∈ passage, Quoted.isInner c) :
    ∀ c ∈ (Leaf.quoted passage).text, isBreak c = false ∧ c ≠ byteOrderMark := by
  intro c member
  rcases List.mem_append.mp member with member | member
  · rcases List.mem_cons.mp member with rfl | member
    · decide
    · obtain ⟨-, inLine, -, -, unmarked⟩ := Quoted.isInner_iff.mp (inner c member)
      exact ⟨inLine, unmarked⟩
  · cases List.mem_singleton.mp member
    decide

theorem unwoundTo_of_head {column margin : Nat} (head : outline.blocks.head? = some margin) (within : margin < column) :
    outline.unwoundTo column = outline := by
  apply Outline.unwoundTo_of_within
  intro block same
  cases head.symm.trans same
  exact Nat.le_of_lt within

-- A scalar at the end of its line, further in than the mark before it: one in quotes ends with them.
theorem ends_of_quoted {passage : Text} {margin : Nat} (stands : l.StandsAt mayStartKey [] cursor outline)
    (here : cursor.rest = (Leaf.quoted passage).text ++ .char '\n' :: text lines) (inner : ∀ c ∈ passage, Quoted.isInner c)
    (fits : Fits lines) (head : outline.blocks.head? = some margin) (within : margin < cursor.column)
    (resumes : Resumes lines (outline.emit (.scalar false passage)) tokens) : l.Ends tokens := by
  obtain ⟨place, reaches, rest, -, line, -⟩ := Cursor.exists_reached_word here (inLine_of_quoted inner)
  have starts : cursor.rest = .char '"' :: (passage ++ .char '"' :: place.rest) := by
    rw [here, rest, Leaf.text]
    simp
  have taken := token_quote mayStartKey outline inner reaches
  refine stands.ends starts (by rw [unwoundTo_of_head head within]; exact taken) ?_ ?_
  · rw [cursor_standing, starts]
    simp
    omega
  · exact ends_of_break fits rest (passed_keysFrom head within line.symm) resumes

theorem ends_of_plain {word : Text} {margin : Nat} (stands : l.StandsAt mayStartKey [] cursor outline)
    (here : cursor.rest = word ++ .char '\n' :: text lines) (wordlike : Plain.isWord word) (fits : Fits lines)
    (head : outline.blocks.head? = some margin) (within : margin < cursor.column) (outside : indentAhead lines ≤ margin)
    (resumes : Resumes lines (outline.emit (.scalar true word)) tokens) : l.Ends tokens := by
  obtain ⟨place, reaches, rest, -, line, -⟩ := Cursor.exists_reached_word here (inLine_of_isWord wordlike)
  obtain ⟨start, goes, rest, further, column⟩ := Cursor.exists_reached_break rest (by decide)
  obtain ⟨pause, joint, column, paused⟩ := exists_pause fits rest column
  obtain ⟨found, ahead⟩ := paused.ahead
  have later := Nat.le_trans paused.reaches.line_le ahead.reaches.line_le
  have gap : Plain.gap (plainIndent outline) (.char '\n' :: text lines) = ⟨none, true, pause.rest⟩ := gap_text fits paused.breaks (by
    have indent := paused.within
    rw [plainIndent_of_head head]
    omega)
  have reads : Plain.read false (plainIndent outline) cursor.rest = (word, pause.rest, true) := by
    have read := Plain.read_word (plainIndent outline) (.char '\n' :: text lines) wordlike rfl (by rw [gap])
    rw [gap] at read
    rw [here]
    exact read
  obtain ⟨first, more, rfl, -⟩ := Plain.isWord_iff.mp wordlike
  have taken := (token_word (.char '\n' :: text lines) wordlike).trans
    (plainScalar_standing mayStartKey reads ((reaches.trans goes).trans paused.reaches))
  refine stands.ends here (by rw [unwoundTo_of_head head within]; exact taken) ?_ ?_
  · have shorter := paused.reaches.length_le
    rw [cursor_standing, here]
    simp only [List.length_append, List.length_cons]
    rw [rest] at shorter
    omega
  · have broken : (afterGap false pause.rest) = ((afterGap false pause.rest).1, found.rest) := by
      rw [ahead.rest, ← paused.gap]
    have passed : Passed place (keysFrom mayStartKey cursor outline) := passed_keysFrom head within line.symm
    have next := standsAt_of_stale true _ (outline.emit (.scalar true (first :: more)))
      paused.unmarked broken ahead.reaches (passed.stale (by omega))
    exact resumes _ found next ahead.rest ahead.column

theorem ends_of_leaf {leaf : Leaf} {margin : Nat} (stands : l.StandsAt mayStartKey [] cursor outline)
    (here : cursor.rest = leaf.text ++ .char '\n' :: text lines) (leafFits : leaf.Fits) (fits : Fits lines)
    (head : outline.blocks.head? = some margin) (within : margin < cursor.column)
    (outside : ∀ word, leaf = .plain word → indentAhead lines ≤ margin)
    (resumes : Resumes lines (outline.emit leaf.token) tokens) : l.Ends tokens := by
  cases leaf with
  | quoted passage => exact ends_of_quoted stands here (List.all_eq_true.mp leafFits) fits head within resumes
  | plain word => exact ends_of_plain stands here leafFits fits head within (outside word rfl) resumes

theorem ends_of_key {key : Text} (stands : l.StandsAt true [] cursor outline) (here : cursor.rest = key ++ .char ':' :: more)
    (wordlike : Plain.isWord key) (short : key.length ≤ keyReach) (ends : endsWord more)
    (later : ∀ place, place.rest = more → place.line = cursor.line → place.column = cursor.column + key.length + 1 →
      (standing false [] place (outline.withKey key cursor.column)).Ends tokens) : l.Ends tokens := by
  obtain ⟨colon, reaches, rest, index, line, column⟩ := Cursor.exists_reached_word here (inLine_of_isWord wordlike)
  obtain ⟨place, goes, after, -, sameLine, further⟩ := Cursor.exists_reached_inner rest (by decide) (by decide)
  have gap : Plain.gap (plainIndent (outline.unwoundTo cursor.column)) (.char ':' :: more) = ⟨none, false, .char ':' :: more⟩ := rfl
  have endsRun : Plain.endsRun false (.char ':' :: more) := by simp [Plain.endsRun, ends]
  have reads : Plain.read false (plainIndent (outline.unwoundTo cursor.column)) cursor.rest = (key, colon.rest, false) := by
    have read := Plain.read_word (plainIndent (outline.unwoundTo cursor.column)) (.char ':' :: more) wordlike endsRun (by rw [gap])
    rw [here, read, gap, rest]
  obtain ⟨first, word, rfl, -⟩ := Plain.isWord_iff.mp wordlike
  have taken := (token_word (.char ':' :: more) wordlike).trans (plainScalar_standing true reads reaches)
  have fresh : ∀ entry ∈ keysFrom true cursor (outline.unwoundTo cursor.column), isStale colon entry.2 = false := by
    intro entry member
    cases List.mem_singleton.mp member
    simpa [isStale, keyStart, line, index] using short
  have unmarked : colon.rest.head? ≠ some byteOrderMark := by
    rw [rest, List.head?_cons]
    decide
  have skipped : afterGap false colon.rest = (false, colon.rest) := by
    rw [rest]
    rfl
  have pending := standsAt_of_fresh false
    ((outline.unwoundTo cursor.column).emit (.scalar true (first :: word))) unmarked skipped (.refl colon) fresh
  have kept : ((outline.unwoundTo cursor.column).emit (.scalar true (first :: word))).unwoundTo colon.column =
      (outline.unwoundTo cursor.column).emit (.scalar true (first :: word)) := by
    apply Outline.unwoundTo_of_within
    intro block head
    have inside := outline.within_unwoundTo cursor.column block head
    omega
  have turned := token_colon cursor colon (outline.unwoundTo cursor.column) (first :: word) ends
  have lengths : colon.rest.length = 1 + place.rest.length := by
    rw [rest, after, List.length_cons, Nat.add_comm]
  rw [goes.forward_eq lengths] at turned
  refine stands.ends here taken ?_ (pending.ends rest (by rw [kept]; exact turned) ?_ ?_)
  · rw [cursor_standing, here, rest]
    simp only [List.length_append, List.length_cons]
    omega
  · rw [cursor_standing]
    omega
  · exact later place after (sameLine.trans line) (further.trans (congrArg (· + 1) column))

theorem head?_withKey (key : Text) (column : Nat) (outline : Outline) :
    (outline.withKey key column).blocks.head? = some column := outline.head?_withBlock .blockMapping column

theorem ends_of_dashes {first : CodePoint} {dashes : Nat} (stands : l.StandsAt true [] cursor outline)
    (here : cursor.rest = Line.dashed dashes ++ first :: more) (opens : Opens first)
    (later : ∀ (l : Lexer) (place : Cursor), l.StandsAt true [] place (outline.withDashes dashes cursor.column) →
      place.rest = first :: more → place.column = cursor.column + 2 * dashes → l.Ends tokens) : l.Ends tokens := by
  induction dashes generalizing l cursor outline with
  | zero => exact later l cursor stands here rfl
  | succ dashes ih =>
    have starts : cursor.rest = .char '-' :: .char ' ' :: (Line.dashed dashes ++ first :: more) := here
    obtain ⟨space, goes, rest, -, -, column⟩ := Cursor.exists_reached_inner starts (by decide) (by decide)
    obtain ⟨next, went, after, -, -, further⟩ := Cursor.exists_reached_inner rest (by decide) (by decide)
    have lengths : cursor.rest.length = 1 + space.rest.length := by
      rw [starts, rest, List.length_cons, Nat.add_comm]
    have taken := token_dash cursor (outline.unwoundTo cursor.column) (Line.dashed dashes ++ first :: more)
    rw [goes.forward_eq lengths] at taken
    have skipped : afterGap false space.rest = (false, next.rest) := by
      rw [rest, after]
      cases dashes with
      | zero => exact afterGap_opens opens
      | succ dashes => rfl
    have unmarked : space.rest.head? ≠ some byteOrderMark := by
      rw [rest, List.head?_cons]
      decide
    have stood := standsAt_of_stale true []
      (((outline.unwoundTo cursor.column).withBlock .blockSequence cursor.column).emit .blockEntry) unmarked skipped went (List.forall_mem_nil _)
    have two : next.column = cursor.column + 2 := by omega
    refine stands.ends starts taken ?_ (ih stood after ?_)
    · rw [cursor_standing]
      omega
    · intro l place stands rest column
      rw [two] at stands column
      exact later l place stands rest (by omega)

theorem ends_of_body {body : Body} (margin : Nat) (stands : l.StandsAt true [] cursor outline)
    (here : cursor.rest = body.text ++ .char '\n' :: text lines) (bodyFits : body.Fits) (fits : Fits lines)
    (item : body.isItem → outline.blocks.head? = some margin ∧ margin < cursor.column)
    (outside : ∀ word, body.leaf? = some (.plain word) → indentAhead lines ≤ if body.isItem then margin else cursor.column)
    (resumes : Resumes lines (body.read cursor.column outline) tokens) : l.Ends tokens := by
  cases body with
  | opening key =>
    have split : cursor.rest = key ++ .char ':' :: .char '\n' :: text lines := by simp [here, Body.text]
    refine ends_of_key stands split bodyFits.1 bodyFits.2 (by simp [endsWord]; decide) fun place rest _ _ => ?_
    exact ends_of_break fits rest passed_nil resumes
  | entry key leaf =>
    obtain ⟨wordlike, short, leafFits⟩ := bodyFits
    have split : cursor.rest = key ++ .char ':' :: .char ' ' :: (leaf.text ++ .char '\n' :: text lines) := by
      simp [here, Body.text]
    refine ends_of_key stands split wordlike short rfl fun place rest _ column => ?_
    obtain ⟨next, went, after, -, -, further⟩ := Cursor.exists_reached_inner rest (by decide) (by decide)
    have skipped : afterGap false place.rest = (false, next.rest) := by
      obtain ⟨first, more, same, opens, -⟩ := opens_of_fits leafFits
      rw [rest, after, same]
      exact afterGap_opens opens
    have unmarked : place.rest.head? ≠ some byteOrderMark := by
      rw [rest, List.head?_cons]
      decide
    have stood := standsAt_of_stale false [] (outline.withKey key cursor.column) unmarked skipped went (List.forall_mem_nil _)
    refine ends_of_leaf stood after leafFits fits (head?_withKey key cursor.column outline) (by omega) ?_ resumes
    intro word same
    subst same
    exact outside word rfl
  | item leaf =>
    obtain ⟨head, within⟩ := item rfl
    refine ends_of_leaf stands here bodyFits fits head within ?_ resumes
    intro word same
    subst same
    exact outside word rfl

theorem resumes (fits : Fits lines) (outline : Outline) : Resumes lines outline (lines.foldl Line.read outline).closed := by
  induction lines generalizing outline with
  | nil =>
    intro l cursor stands here column
    exact stands.ends_of_nil here
  | cons line lines ih =>
    intro l cursor stands here column
    cases line with
    | blank | comment words => exact ih fits.2.2 outline l cursor stands here column
    | filled indent dashes body =>
      obtain ⟨first, more, same, opens, -⟩ := Body.opens fits.1.1
      have split : cursor.rest = Line.dashed dashes ++ first :: (more ++ .char '\n' :: text lines) := by
        rw [here, ahead, same]
        simp
      refine ends_of_dashes stands split opens fun l place stands rest further => ?_
      have indented : cursor.column = indent := column
      rw [indented] at stands further
      have body : place.rest = body.text ++ .char '\n' :: text lines := by rw [rest, same, List.cons_append]
      refine ends_of_body (indent + 2 * dashes - 2) stands body fits.1.1 fits.2.2 ?_ ?_ ?_
      · intro item
        obtain ⟨before, rfl⟩ : ∃ before, dashes = before + 1 := ⟨dashes - 1, by have := fits.1.2 item; omega⟩
        exact ⟨Outline.head?_withDashes before indent outline, by omega⟩
      · intro word plain
        apply fits.2.1
        simp only [Line.margin?, plain, further]
      · rw [further]
        exact ih fits.2.2 _

end Lexer

-- A document in block style has the tokens of its lines, whatever its words are.
theorem Token.ofText_layout {lines : List Line} (fits : Layout.Fits lines) :
    Token.ofText (Layout.text lines) = Layout.tokens lines := by
  obtain ⟨cursor, ahead⟩ := Layout.exists_ahead fits ⟨Layout.text lines, 0, 0, 0⟩ rfl rfl
  have skipped : Lexer.afterGap false (Layout.text lines) = ((Lexer.afterGap false (Layout.text lines)).1, cursor.rest) := by
    rw [ahead.rest, ← Layout.afterGap_text fits]
  have stands : (Lexer.standing true [] ⟨Layout.text lines, 0, 0, 0⟩ ⟨[], []⟩).StandsAt (true || _) [] cursor ⟨[], []⟩ :=
    Lexer.standsAt_of_stale true [] ⟨[], []⟩ (Layout.unmarked_text fits) skipped ahead.reaches (List.forall_mem_nil _)
  have ends := Lexer.resumes fits ⟨[], []⟩ _ cursor stands ahead.rest ahead.column
  rw [Token.ofText, if_pos (List.all_eq_true.mpr (Layout.printable_text fits))]
  exact ends _ (Nat.lt_succ_self _)

end ChangeCapture.Yaml
