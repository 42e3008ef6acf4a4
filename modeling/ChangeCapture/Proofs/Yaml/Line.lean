import ChangeCapture.Yaml.Token
import Mathlib.Data.List.TakeDrop

namespace ChangeCapture.Yaml

-- The lines of a document in block style, with blank lines and comments between them.

def Plain.isInner (c : CodePoint) : Bool :=
  isPrintable c && !isGap c && !isBreak c && c ≠ .char ':' && c ≠ byteOrderMark

def Plain.marks : String := "-?:,[]\x7b\x7d#&*!|>'\"%@`."

def Plain.isWord : Text → Bool
  | [] => false
  | c :: rest => !isOneOf marks c && (c :: rest).all isInner

def Quoted.isInner (c : CodePoint) : Bool :=
  isPrintable c && !isBreak c && c ≠ .char '"' && c ≠ .char '\\' && c ≠ byteOrderMark

inductive Leaf where
  | plain (word : Text)
  | quoted (text : Text)

namespace Leaf

def text : Leaf → Text
  | .plain word => word
  | .quoted text => .char '"' :: text ++ [.char '"']

def token : Leaf → Token
  | .plain word => .scalar true word
  | .quoted text => .scalar false text

def Fits : Leaf → Prop
  | .plain word => Plain.isWord word
  | .quoted text => text.all Quoted.isInner

end Leaf

inductive Body where
  | opening (key : Text)
  | entry (key : Text) (leaf : Leaf)
  | item (leaf : Leaf)

namespace Body

def text : Body → Text
  | .opening key => key ++ [.char ':']
  | .entry key leaf => key ++ .char ':' :: .char ' ' :: leaf.text
  | .item leaf => leaf.text

def Fits : Body → Prop
  | .opening key => Plain.isWord key ∧ key.length ≤ Lexer.keyReach
  | .entry key leaf => Plain.isWord key ∧ key.length ≤ Lexer.keyReach ∧ leaf.Fits
  | .item leaf => leaf.Fits

def isItem : Body → Bool
  | .item _ => true
  | _ => false

def leaf? : Body → Option Leaf
  | .opening _ => none
  | .entry _ leaf | .item leaf => some leaf

end Body

inductive Line where
  | blank
  | comment (text : Text)
  | filled (indent dashes : Nat) (body : Body)

namespace Line

def dashed : Nat → Text
  | 0 => []
  | dashes + 1 => .char '-' :: .char ' ' :: dashed dashes

def text : Line → Text
  | .blank => [.char '\n']
  | .comment text => .char '#' :: text ++ [.char '\n']
  | .filled indent dashes body => List.replicate indent (.char ' ') ++ dashed dashes ++ body.text ++ [.char '\n']

def Fits : Line → Prop
  | .blank => True
  | .comment text => ∀ c ∈ text, isPrintable c ∧ isBreak c = false ∧ c ≠ byteOrderMark
  | .filled _ dashes body => body.Fits ∧ (body.isItem → 0 < dashes)

-- The column of the last mark before a plain scalar, beyond which the scalar would go on
-- in the next line.
def margin? : Line → Option Nat
  | .filled indent dashes body =>
    match body.leaf? with
    | some (.plain _) => some (if body.isItem then indent + 2 * dashes - 2 else indent + 2 * dashes)
    | _ => none
  | _ => none

end Line

instance : (leaf : Leaf) → Decidable leaf.Fits
  | .plain _ | .quoted _ => inferInstanceAs (Decidable (_ = true))

namespace Layout

def text (lines : List Line) : Text := lines.flatMap Line.text

-- What comes behind the blank lines, the comments and the spaces, and its column.
def ahead : List Line → Text
  | [] => []
  | .blank :: rest | .comment _ :: rest => ahead rest
  | .filled _ dashes body :: rest => Line.dashed dashes ++ body.text ++ .char '\n' :: text rest

def indentAhead : List Line → Nat
  | [] => 0
  | .blank :: rest | .comment _ :: rest => indentAhead rest
  | .filled indent _ _ :: _ => indent

def Fits : List Line → Prop
  | [] => True
  | line :: rest => line.Fits ∧ (∀ margin, line.margin? = some margin → indentAhead rest ≤ margin) ∧ Fits rest

end Layout

namespace Cursor

variable {a b c : Cursor} {rest word : Text} {index line column : Nat}

theorem forward_of_nil (count : Nat) (ended : a.rest = []) : a.forward count = a := by
  cases count with
  | zero => rfl
  | succ count =>
    rw [forward]
    simp only [ended]

theorem forward_add (first second : Nat) : a.forward (first + second) = (a.forward first).forward second := by
  induction first generalizing a with
  | zero => rw [Nat.zero_add, forward]
  | succ first ih =>
    rw [Nat.succ_add, forward, forward]
    split
    · rename_i ended
      exact (forward_of_nil second ended).symm
    · split
      · exact ih
      · split
        · exact ih
        · exact ih

def Reaches (a b : Cursor) : Prop := ∃ count, a.forward count = b ∧ a.rest.length = count + b.rest.length

theorem Reaches.refl (a : Cursor) : a.Reaches a := ⟨0, rfl, (Nat.zero_add _).symm⟩

theorem Reaches.trans (first : a.Reaches b) (second : b.Reaches c) : a.Reaches c := by
  obtain ⟨before, went, lengths⟩ := first
  obtain ⟨after, goes, later⟩ := second
  exact ⟨before + after, by rw [forward_add, went, goes], by omega⟩

theorem Reaches.upTo (reaches : a.Reaches b) : a.upTo b.rest = b := by
  obtain ⟨count, went, lengths⟩ := reaches
  rw [Cursor.upTo, lengths, Nat.add_sub_cancel]
  exact went

theorem Reaches.forward_eq {count : Nat} (reaches : a.Reaches b) (lengths : a.rest.length = count + b.rest.length) :
    a.forward count = b := by
  have went := reaches.upTo
  rwa [Cursor.upTo, lengths, Nat.add_sub_cancel] at went

theorem Reaches.length_le (reaches : a.Reaches b) : b.rest.length ≤ a.rest.length := by
  obtain ⟨count, _, lengths⟩ := reaches
  omega

theorem line_le_forward (count : Nat) (a : Cursor) : a.line ≤ (a.forward count).line := by
  induction count generalizing a with
  | zero => exact Nat.le_refl _
  | succ count ih =>
    rw [forward]
    split
    · exact Nat.le_refl _
    · rename_i rest _
      split
      · exact Nat.le_of_succ_le (ih ⟨rest, a.index + 1, a.line + 1, 0⟩)
      · split
        · exact ih ⟨rest, a.index + 1, a.line, a.column⟩
        · exact ih ⟨rest, a.index + 1, a.line, a.column + 1⟩

theorem Reaches.line_le (reaches : a.Reaches b) : a.line ≤ b.line := by
  obtain ⟨count, rfl, _⟩ := reaches
  exact line_le_forward count a

theorem exists_reached_break {first : CodePoint} (here : a.rest = first :: rest) (breaks : isBreak first) :
    ∃ b, a.Reaches b ∧ b.rest = rest ∧ b.line = a.line + 1 ∧ b.column = 0 := by
  refine ⟨⟨rest, a.index + 1, a.line + 1, 0⟩, ⟨1, ?_, ?_⟩, rfl, rfl, rfl⟩
  · rw [forward]
    simp only [here, breaks, if_true, forward]
  · rw [here, List.length_cons, Nat.add_comm]

theorem exists_reached_inner {first : CodePoint} (here : a.rest = first :: rest) (inner : isBreak first = false)
    (unmarked : first ≠ byteOrderMark) :
    ∃ b, a.Reaches b ∧ b.rest = rest ∧ b.index = a.index + 1 ∧ b.line = a.line ∧ b.column = a.column + 1 := by
  refine ⟨⟨rest, a.index + 1, a.line, a.column + 1⟩, ⟨1, ?_, ?_⟩, rfl, rfl, rfl, rfl⟩
  · rw [forward]
    simp [here, inner, unmarked, forward]
  · rw [here, List.length_cons, Nat.add_comm]

theorem exists_reached_word (here : a.rest = word ++ rest) (inner : ∀ c ∈ word, isBreak c = false ∧ c ≠ byteOrderMark) :
    ∃ b, a.Reaches b ∧ b.rest = rest ∧ b.index = a.index + word.length ∧ b.line = a.line ∧
      b.column = a.column + word.length := by
  induction word generalizing a with
  | nil => exact ⟨a, .refl a, here, rfl, rfl, rfl⟩
  | cons first word ih =>
    obtain ⟨first, later⟩ := List.forall_mem_cons.mp inner
    obtain ⟨b, reaches, restB, indexB, lineB, columnB⟩ := exists_reached_inner here first.1 first.2
    obtain ⟨c, goes, restC, indexC, lineC, columnC⟩ := ih restB later
    refine ⟨c, reaches.trans goes, restC, ?_, lineC.trans lineB, ?_⟩
    · rw [indexC, indexB, List.length_cons, Nat.add_right_comm, Nat.add_assoc]
    · rw [columnC, columnB, List.length_cons, Nat.add_right_comm, Nat.add_assoc]

end Cursor

variable {c : CodePoint} {rest word passage : Text}

theorem isOneOf_eq_false_iff {marks : String} : isOneOf marks c = false ↔ ∀ mark ∈ Text.ofString marks, c ≠ mark := by
  rw [isOneOf, List.contains_eq_mem, decide_eq_false_iff_not]
  exact ⟨fun none mark member same => none (same ▸ member), fun none member => none c member rfl⟩

namespace Plain

theorem isInner_iff : isInner c ↔
    isPrintable c ∧ isGap c = false ∧ isBreak c = false ∧ c ≠ .char ':' ∧ c ≠ byteOrderMark := by
  simp [isInner, and_assoc]

theorem isWord_iff : isWord word ↔
    ∃ first rest, word = first :: rest ∧ (∀ mark ∈ Text.ofString marks, first ≠ mark) ∧ ∀ c ∈ word, isInner c := by
  cases word with
  | nil => simp [isWord]
  | cons first rest => simp [isWord, isOneOf_eq_false_iff]

theorem endsRun_of_isInner (inner : isInner c) : endsRun false (c :: rest) = false := by
  obtain ⟨-, gap, inLine, colon, -⟩ := isInner_iff.mp inner
  simp [endsRun, gap, inLine, colon]

theorem run_word (inner : ∀ c ∈ word, isInner c) (ends : endsRun false rest) : run false (word ++ rest) = (word, rest) := by
  induction word with
  | nil =>
    cases rest with
    | nil => rfl
    | cons c rest =>
      rw [List.nil_append, run]
      simp only [ends, if_true]
  | cons first word ih =>
    obtain ⟨here, later⟩ := List.forall_mem_cons.mp inner
    rw [List.cons_append, run, endsRun_of_isInner here, ih later]
    rfl

theorem read_word (indent : Nat) (rest : Text) (wordlike : isWord word) (ends : endsRun false rest) (stops : (gap indent rest).joint = none) :
    read false indent (word ++ rest) = (word, (gap indent rest).rest, (gap indent rest).broken) := by
  obtain ⟨first, more, rfl, -, inner⟩ := isWord_iff.mp wordlike
  rw [read, List.length_append, List.length_cons, Nat.add_right_comm, readFrom, run_word inner ends]
  simp only [Bool.false_eq_true, if_false, stops, List.nil_append]

end Plain

namespace Quoted

theorem isInner_iff : isInner c ↔
    isPrintable c ∧ isBreak c = false ∧ c ≠ .char '"' ∧ c ≠ .char '\\' ∧ c ≠ byteOrderMark := by
  simp [isInner, and_assoc]

theorem gap_inner (inner : ∀ c ∈ passage, isInner c) :
    gap (passage ++ .char '"' :: rest) = .ok (passage.takeWhile isGap, passage.dropWhile isGap ++ .char '"' :: rest) := by
  have quote : isGap (.char '"') = false := by decide
  have parts : (passage ++ .char '"' :: rest).takeWhile isGap = passage.takeWhile isGap ∧
      (passage ++ .char '"' :: rest).dropWhile isGap = passage.dropWhile isGap ++ .char '"' :: rest := by
    clear inner
    induction passage with
    | nil => simp [quote]
    | cons first later ih =>
      cases blank : isGap first with
      | true => simpa [blank] using ih
      | false => simp [blank]
  rw [gap, parts.1, parts.2]
  cases after : passage.dropWhile isGap with
  | nil => rfl
  | cons c later =>
    have member : c ∈ passage := (List.dropWhile_suffix isGap).subset (after ▸ List.mem_cons_self ..)
    obtain ⟨-, inLine, -⟩ := isInner_iff.mp (inner c member)
    simp [inLine]

theorem readFrom_piece {fuel : Nat} {later : Text} (piece : Text) (read : readFrom true fuel (later ++ .char '"' :: rest) = .ok (later, rest)) :
    (do
      let found ← (.ok (piece, later ++ .char '"' :: rest) : Except Fault (Text × Text))
      let last ← readFrom true fuel found.2
      .ok (found.1 ++ last.1, last.2)) = (.ok (piece ++ later, rest) : Except Fault (Text × Text)) := by
  change (readFrom true fuel (later ++ .char '"' :: rest) >>= _) = _
  rw [read]
  rfl

theorem readFrom_inner (fuel : Nat) (inner : ∀ c ∈ passage, isInner c) (enough : passage.length < fuel) :
    readFrom true fuel (passage ++ .char '"' :: rest) = .ok (passage, rest) := by
  induction fuel generalizing passage with
  | zero => omega
  | succ fuel ih =>
    cases passage with
    | nil =>
      unfold readFrom
      rfl
    | cons first later =>
      have inside : ∀ c ∈ later, isInner c := (List.forall_mem_cons.mp inner).2
      obtain ⟨-, inLine, quote, backslash, -⟩ := isInner_iff.mp (List.forall_mem_cons.mp inner).1
      rw [List.length_cons] at enough
      unfold readFrom
      by_cases blank : isGap first
      · have found : gap (first :: (later ++ .char '"' :: rest)) = _ := gap_inner inner
        have apostrophe : first ≠ .char '\'' := by
          rintro rfl
          cases blank
        have after : (first :: later).dropWhile isGap = later.dropWhile isGap := by rw [List.dropWhile_cons_of_pos blank]
        have shorter := (List.dropWhile_suffix isGap (l := later)).sublist.length_le
        have read := @ih (later.dropWhile isGap) (fun c member => inside c ((List.dropWhile_suffix isGap).subset member)) (by omega)
        rw [after] at found
        simp only [List.cons_append, quote, backslash, apostrophe, blank, Bool.true_or, if_true, if_false, found]
        rw [readFrom_piece _ read, ← after, List.takeWhile_append_dropWhile]
      · have read := @ih later inside (by omega)
        have here := readFrom_piece [first] read
        simpa [quote, backslash, blank, inLine] using here

theorem read_inner (rest : Text) (inner : ∀ c ∈ passage, isInner c) : read true (passage ++ .char '"' :: rest) = .ok (passage, rest) :=
  readFrom_inner _ inner (by rw [List.length_append, List.length_cons]; omega)

end Quoted

theorem isDocumentMark_eq_false (dash : c ≠ .char '-') (dot : c ≠ .char '.') : isDocumentMark (c :: rest) = false := by
  simp [isDocumentMark, isMark, Text.ofString, Text.afterPrefix?, dash.symm, dot.symm]

def Opens (c : CodePoint) : Prop := isBreak c = false ∧ c ≠ .char ' ' ∧ c ≠ .char '#' ∧ c ≠ byteOrderMark

theorem opens_of_isWord (wordlike : Plain.isWord word) :
    ∃ first rest, word = first :: rest ∧ Opens first ∧ first ≠ .char '-' ∧ first ≠ .char '.' := by
  obtain ⟨first, rest, rfl, unmarked, inner⟩ := Plain.isWord_iff.mp wordlike
  obtain ⟨-, gap, inLine, -, unsigned⟩ := Plain.isInner_iff.mp (inner first (List.mem_cons_self ..))
  refine ⟨first, rest, rfl, ⟨inLine, ?_, unmarked _ (by decide), unsigned⟩, unmarked _ (by decide), unmarked _ (by decide)⟩
  rintro rfl
  cases gap

theorem opens_of_fits {leaf : Leaf} (fits : leaf.Fits) :
    ∃ first rest, leaf.text = first :: rest ∧ Opens first ∧ first ≠ .char '-' ∧ first ≠ .char '.' := by
  cases leaf with
  | plain word => exact opens_of_isWord fits
  | quoted text => exact ⟨.char '"', text ++ [.char '"'], rfl, by unfold Opens; decide, by decide, by decide⟩

theorem Body.opens {body : Body} (fits : body.Fits) :
    ∃ first rest, body.text = first :: rest ∧ Opens first ∧ first ≠ .char '-' ∧ first ≠ .char '.' := by
  cases body with
  | opening key | entry key leaf =>
    obtain ⟨first, rest, rfl, opens⟩ := opens_of_isWord fits.1
    exact ⟨first, _, rfl, opens⟩
  | item leaf => exact opens_of_fits fits

namespace Layout

variable {lines : List Line}

theorem ahead_cases (fits : Fits lines) :
    ahead lines = [] ∨ ∃ first rest, ahead lines = first :: rest ∧ Opens first ∧ isDocumentMark (first :: rest) = false := by
  induction lines with
  | nil => exact .inl rfl
  | cons line lines ih =>
    cases line with
    | blank | comment text => exact ih fits.2.2
    | filled indent dashes body =>
      refine .inr ?_
      cases dashes with
      | zero =>
        obtain ⟨first, rest, same, opens, dash, dot⟩ := Body.opens fits.1.1
        have starts : ahead (.filled indent 0 body :: lines) = first :: (rest ++ .char '\n' :: text lines) := by
          rw [ahead, same, Line.dashed, List.nil_append, List.cons_append]
        exact ⟨first, _, starts, opens, isDocumentMark_eq_false dash dot⟩
      | succ dashes => exact ⟨.char '-', _, rfl, by unfold Opens; decide, rfl⟩

theorem text_filled {indent dashes : Nat} {body : Body} :
    text (.filled indent dashes body :: lines) =
      List.replicate indent (.char ' ') ++ ahead (.filled indent dashes body :: lines) := by
  simp [text, Line.text, ahead]

theorem isDocumentMark_text (fits : Fits lines) : isDocumentMark (text lines) = false := by
  cases lines with
  | nil => rfl
  | cons line lines =>
    cases line with
    | blank | comment words =>
      change isDocumentMark (_ :: _) = false
      exact isDocumentMark_eq_false (by decide) (by decide)
    | filled indent dashes body =>
      rw [text_filled]
      cases indent with
      | zero =>
        rcases ahead_cases fits with none | ⟨first, rest, same, -, unmarked⟩
        · rw [none]
          rfl
        · rw [same]
          exact unmarked
      | succ indent =>
        rw [List.replicate_succ, List.cons_append]
        exact isDocumentMark_eq_false (by decide) (by decide)

theorem afterGap_opens {first : CodePoint} {rest : Text} (opens : Opens first) :
    Lexer.afterGap false (first :: rest) = (false, first :: rest) := by
  obtain ⟨inLine, space, hash, -⟩ := opens
  simp [Lexer.afterGap, inLine, space, hash]

theorem afterGap_spaces (count : Nat) (rest : Text) :
    Lexer.afterGap false (List.replicate count (.char ' ') ++ rest) = Lexer.afterGap false rest := by
  induction count with
  | zero => rfl
  | succ count ih => rwa [List.replicate_succ, List.cons_append, Lexer.afterGap]

theorem afterGap_comment {words rest : Text} (inLine : ∀ c ∈ words, isBreak c = false) :
    Lexer.afterGap true (words ++ .char '\n' :: rest) = (true, (Lexer.afterGap false rest).2) := by
  induction words with
  | nil => rfl
  | cons first words ih =>
    obtain ⟨here, later⟩ := List.forall_mem_cons.mp inLine
    rw [List.cons_append, Lexer.afterGap, here]
    exact ih later

theorem afterGap_text (fits : Fits lines) : (Lexer.afterGap false (text lines)).2 = ahead lines := by
  induction lines with
  | nil => rfl
  | cons line lines ih =>
    cases line with
    | blank => exact ih fits.2.2
    | comment words =>
      have inLine : ∀ c ∈ words, isBreak c = false := fun c member => (fits.1 c member).2.1
      change (Lexer.afterGap true (words ++ [.char '\n'] ++ text lines)).2 = _
      rw [List.append_assoc]
      exact (congrArg Prod.snd (afterGap_comment inLine)).trans (ih fits.2.2)
    | filled indent dashes body =>
      rw [text_filled, afterGap_spaces]
      rcases ahead_cases fits with none | ⟨first, rest, same, opens, -⟩
      · rw [none]
        rfl
      · rw [same, afterGap_opens opens]

-- The place of what comes next, found from one before it.
structure Ahead (lines : List Line) (place found : Cursor) : Prop where
  reaches : place.Reaches found
  rest : found.rest = ahead lines
  column : found.column = indentAhead lines

theorem exists_ahead (fits : Fits lines) (place : Cursor) (here : place.rest = text lines) (margin : place.column = 0) :
    ∃ found, Ahead lines place found := by
  induction lines generalizing place with
  | nil => exact ⟨place, .refl _, here, margin⟩
  | cons line lines ih =>
    cases line with
    | blank =>
      obtain ⟨next, reaches, rest, -, column⟩ := Cursor.exists_reached_break here (by decide)
      obtain ⟨found, ahead⟩ := ih fits.2.2 next rest column
      exact ⟨found, reaches.trans ahead.reaches, ahead.rest, ahead.column⟩
    | comment words =>
      have inLine : ∀ c ∈ .char '#' :: words, isBreak c = false ∧ c ≠ byteOrderMark :=
        List.forall_mem_cons.mpr ⟨by decide, fun c member => (fits.1 c member).2⟩
      have whole : text (.comment words :: lines) = .char '#' :: words ++ .char '\n' :: text lines := by simp [text, Line.text]
      obtain ⟨last, reaches, rest, -⟩ := Cursor.exists_reached_word (here.trans whole) inLine
      obtain ⟨next, goes, rest, -, column⟩ := Cursor.exists_reached_break rest (by decide)
      obtain ⟨found, ahead⟩ := ih fits.2.2 next rest column
      exact ⟨found, (reaches.trans goes).trans ahead.reaches, ahead.rest, ahead.column⟩
    | filled indent dashes body =>
      have spaces : ∀ c ∈ List.replicate indent (.char ' '), isBreak c = false ∧ c ≠ byteOrderMark := by
        intro c member
        rw [(List.mem_replicate.mp member).2]
        decide
      obtain ⟨found, reaches, rest, -, -, column⟩ := Cursor.exists_reached_word (here.trans text_filled) spaces
      rw [margin, Nat.zero_add, List.length_replicate] at column
      exact ⟨found, reaches, rest, column⟩

theorem breaks_opens {first : CodePoint} {rest : Text} (opens : Opens first) (column : Nat) :
    Plain.breaks column (first :: rest) = (some ([], column), first :: rest) := by
  obtain ⟨inLine, space, -, -⟩ := opens
  simp [Plain.breaks, inLine, space]

theorem breaks_spaces (count column : Nat) (rest : Text) :
    Plain.breaks column (List.replicate count (.char ' ') ++ rest) = Plain.breaks (column + count) rest := by
  induction count generalizing column with
  | zero => rfl
  | succ count ih =>
    rw [List.replicate_succ, List.cons_append, Plain.breaks]
    simp only [if_true, ih, Nat.add_right_comm, Nat.add_assoc]

theorem unmarked_ahead (fits : Fits lines) : (ahead lines).head? ≠ some byteOrderMark := by
  rcases ahead_cases fits with none | ⟨first, rest, same, ⟨-, -, -, unmarked⟩, -⟩
  · rw [none]
    nofun
  · rw [same, List.head?_cons]
    exact fun marked => unmarked (Option.some.inj marked)

theorem unmarked_text (fits : Fits lines) : (text lines).head? ≠ some byteOrderMark := by
  cases lines with
  | nil => nofun
  | cons line lines =>
    cases line with
    | blank | comment words =>
      change some _ ≠ some byteOrderMark
      decide
    | filled indent dashes body =>
      rw [text_filled]
      cases indent with
      | zero => exact unmarked_ahead fits
      | succ indent =>
        change some _ ≠ some byteOrderMark
        decide

theorem afterGap_ahead (fits : Fits lines) : Lexer.afterGap false (ahead lines) = (false, ahead lines) := by
  rcases ahead_cases fits with none | ⟨first, rest, same, opens, -⟩
  · rw [none]
    rfl
  · rw [same, afterGap_opens opens]

theorem breaks_ahead (fits : Fits lines) (column : Nat) : Plain.breaks column (ahead lines) = (some ([], column), ahead lines) := by
  rcases ahead_cases fits with none | ⟨first, rest, same, opens, -⟩
  · rw [none]
    rfl
  · rw [same, breaks_opens opens]

-- Where a plain scalar stops to look for more of itself: at what comes next, or at a
-- comment before it.
structure Pause (lines : List Line) (place pause : Cursor) (joint : Text) (column : Nat) : Prop where
  reaches : place.Reaches pause
  breaks : Plain.breaks 0 (text lines) = (some (joint, column), pause.rest)
  within : column ≤ indentAhead lines
  gap : (Lexer.afterGap false pause.rest).2 = ahead lines
  unmarked : pause.rest.head? ≠ some byteOrderMark
  ahead : ∃ found, Ahead lines pause found

theorem exists_pause (fits : Fits lines) {place : Cursor} (here : place.rest = text lines) (margin : place.column = 0) :
    ∃ pause joint column, Pause lines place pause joint column := by
  induction lines generalizing place with
  | nil =>
    refine ⟨place, [], 0, .refl _, ?_, Nat.le_refl _, ?_, ?_, place, .refl _, here, margin⟩ <;> rw [here]
    · rfl
    · rfl
    · nofun
  | cons line lines ih =>
    cases line with
    | blank =>
      obtain ⟨next, goes, rest, -, column⟩ := Cursor.exists_reached_break here (by decide)
      obtain ⟨pause, joint, column, paused⟩ := ih fits.2.2 rest column
      obtain ⟨found, ahead⟩ := paused.ahead
      refine ⟨pause, .char '\n' :: joint, column, goes.trans paused.reaches, ?_, paused.within, paused.gap, paused.unmarked,
        found, ahead.reaches, ahead.rest, ahead.column⟩
      change Plain.breaks 0 (.char '\n' :: text lines) = _
      rw [Plain.breaks]
      simp only [isDocumentMark_text fits.2.2, paused.breaks]
      rfl
    | comment words =>
      refine ⟨place, [], 0, .refl _, ?_, Nat.zero_le _, ?_, ?_, exists_ahead fits place here margin⟩ <;> rw [here]
      · rfl
      · exact afterGap_text fits
      · change some (CodePoint.char '#') ≠ _
        decide
    | filled indent dashes body =>
      obtain ⟨found, reaches, rest, column⟩ := exists_ahead fits place here margin
      refine ⟨found, [], indent, reaches, ?_, Nat.le_refl _, ?_, ?_, found, .refl _, rest, column⟩ <;> rw [rest]
      · rw [text_filled, breaks_spaces, Nat.zero_add, breaks_ahead fits]
      · rw [afterGap_ahead fits]
      · exact unmarked_ahead fits

theorem gap_text (fits : Fits lines) {indent column : Nat} {joint rest : Text}
    (reads : Plain.breaks 0 (text lines) = (some (joint, column), rest)) (within : column < indent) :
    Plain.gap indent (.char '\n' :: text lines) = ⟨none, true, rest⟩ := by
  have inLine : isBreak (.char '\n') := by decide
  have space : CodePoint.char '\n' ≠ .char ' ' := by decide
  simp [Plain.gap, afterSpaces, space, inLine, isDocumentMark_text fits, reads, within]

theorem printable_word (wordlike : Plain.isWord word) : ∀ c ∈ word, isPrintable c := by
  obtain ⟨_, _, _, _, inner⟩ := Plain.isWord_iff.mp wordlike
  exact fun c member => (Plain.isInner_iff.mp (inner c member)).1

theorem printable_leaf {leaf : Leaf} (fits : leaf.Fits) : ∀ c ∈ leaf.text, isPrintable c := by
  have quote : isPrintable (.char '"') := by decide
  cases leaf with
  | plain word => exact printable_word fits
  | quoted passage =>
    have inner : ∀ c ∈ passage, isPrintable c :=
      fun c member => (Quoted.isInner_iff.mp (List.all_eq_true.mp fits c member)).1
    simpa [Leaf.text, quote, or_imp, forall_and] using inner

theorem printable_body {body : Body} (fits : body.Fits) : ∀ c ∈ body.text, isPrintable c := by
  have colon : isPrintable (.char ':') := by decide
  have space : isPrintable (.char ' ') := by decide
  cases body with
  | opening key => simpa [Body.text, colon, or_imp, forall_and] using printable_word fits.1
  | entry key leaf =>
    simpa [Body.text, colon, space, or_imp, forall_and] using ⟨printable_word fits.1, printable_leaf fits.2.2⟩
  | item leaf => exact printable_leaf fits

theorem printable_dashed (dashes : Nat) : ∀ c ∈ Line.dashed dashes, isPrintable c := by
  induction dashes with
  | zero => nofun
  | succ dashes ih => exact List.forall_mem_cons.mpr ⟨by decide, List.forall_mem_cons.mpr ⟨by decide, ih⟩⟩

theorem printable_text (fits : Fits lines) : ∀ c ∈ text lines, isPrintable c := by
  have lineEnd : isPrintable (.char '\n') := by decide
  have hash : isPrintable (.char '#') := by decide
  have space : isPrintable (.char ' ') := by decide
  induction lines with
  | nil => nofun
  | cons line lines ih =>
    refine List.forall_mem_append.mpr ⟨?_, ih fits.2.2⟩
    cases line with
    | blank => simpa [Line.text] using lineEnd
    | comment words => simpa [Line.text, lineEnd, hash, or_imp, forall_and] using fun c member => (fits.1 c member).1
    | filled indent dashes body =>
      simpa [Line.text, lineEnd, space, or_imp, forall_and] using ⟨printable_dashed dashes, printable_body fits.1.1⟩

-- Whether every plain scalar ends before the next line: this asks nothing of the words.
def isSteady : List Line → Bool
  | [] => true
  | line :: rest => line.margin?.all (fun margin => decide (indentAhead rest ≤ margin)) && isSteady rest

theorem fits_of_isSteady (steady : isSteady lines) (each : ∀ line ∈ lines, line.Fits) : Fits lines := by
  induction lines with
  | nil => trivial
  | cons line rest ih =>
    rw [isSteady, Bool.and_eq_true] at steady
    obtain ⟨first, later⟩ := List.forall_mem_cons.mp each
    refine ⟨first, fun margin told => ?_, ih steady.2 later⟩
    have within := steady.1
    rw [told] at within
    exact of_decide_eq_true within

end Layout

end ChangeCapture.Yaml
