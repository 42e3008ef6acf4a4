import ChangeCapture.Proofs.Text.CodePoint
import ChangeCapture.Proofs.Yaml.Sound
import ChangeCapture.Yaml.Token

namespace ChangeCapture.Yaml

-- What is wrong with the spelling of a text. Apart from its form, an escape may be for
-- no code point, and the number of a version may be too long to be read.
inductive Misspelled (text : Text) : Fault → Prop
  | malformed : Misspelled text .malformed
  | escape {value : Nat} : .char '\\' ∈ text → 0x110000 ≤ value → Misspelled text (.refused (.codePoint value))
  | version {cause : IntegerFault} : .char '%' ∈ text → Misspelled text (.refused (.integer cause))

variable {text rest : Text}

theorem fine_malformed {α : Type} {post : α → Prop} : Fine (Misspelled text) (.error .malformed) post := fine_error .malformed

namespace Property

theorem fine_name (rest : Text) : Fine (Misspelled text) (name rest) fun _ => True := by
  unfold name
  dsimp only
  split
  · exact fine_malformed
  · split
    · exact fine_ok trivial
    · exact fine_malformed

theorem fine_handle (rest : Text) : Fine (Misspelled text) (handle rest) fun _ => True := by
  unfold handle
  split
  · exact fine_malformed
  · split
    · exact fine_malformed
    · split
      · exact fine_ok trivial
      · split
        · split
          · exact fine_ok trivial
          · exact fine_malformed
        · exact fine_malformed

theorem fine_escapedBytes (rest : Text) : Fine (Misspelled text) (escapedBytes rest) fun _ => True := by
  fun_induction escapedBytes rest with
  | case1 _ _ _ _ _ _ _ ih => exact ih.map fun _ _ => trivial
  | case2 => exact fine_malformed
  | case3 => exact fine_ok trivial
  | case4 => exact fine_malformed
  | case5 => exact fine_ok trivial

theorem fine_addressFrom (fuel : Nat) (rest : Text) : Fine (Misspelled text) (addressFrom fuel rest) fun _ => True := by
  induction fuel generalizing rest with
  | zero => exact fine_ok trivial
  | succ fuel ih =>
    cases rest with
    | nil => exact fine_ok trivial
    | cons c rest =>
      rw [addressFrom]
      split
      · exact (ih _).map fun _ _ => trivial
      · split
        · refine Fine.bind (fine_escapedBytes _) fun _ _ => ?_
          dsimp only
          split
          · exact Fine.bind (ih _) fun _ _ => fine_ok trivial
          · exact fine_malformed
        · exact fine_ok trivial

theorem fine_address (rest : Text) : Fine (Misspelled text) (address rest) fun _ => True := by
  refine Fine.bind (fine_addressFrom rest.length rest) fun _ _ => ?_
  dsimp only
  split
  · exact fine_malformed
  · exact fine_ok trivial

theorem fine_tag (rest : Text) : Fine (Misspelled text) (tag rest) fun _ => True := by
  have closes : ∀ found : (Option Text × Text) × Text, Fine (Misspelled text)
      (if endsOnSpace found.2 then .ok (found.1, found.2) else .error .malformed) fun _ => True := by
    intro found
    split
    · exact fine_ok trivial
    · exact fine_malformed
  unfold tag
  dsimp only
  split
  · exact closes ((none, [.char '!']), [])
  · split
    · refine Fine.bind (fine_address _) fun _ _ => ?_
      split
      · split
        · exact closes ((none, _), _)
        · exact fine_malformed
      · exact fine_malformed
    · split
      · exact closes ((none, [.char '!']), _)
      · split
        · exact Fine.bind (fine_handle _) fun _ _ => Fine.bind (fine_address _) fun _ _ => closes _
        · exact Fine.bind (fine_address _) fun _ _ => closes _

theorem fine_number (percent : .char '%' ∈ text) (rest : Text) : Fine (Misspelled text) (number rest) fun _ => True := by
  unfold number
  dsimp only
  split
  · exact fine_malformed
  · split
    · exact fine_ok trivial
    · exact fine_error (.version percent)

theorem fine_version (percent : .char '%' ∈ text) (rest : Text) : Fine (Misspelled text) (version rest) fun _ => True := by
  refine Fine.bind (fine_number percent _) fun _ _ => ?_
  dsimp only
  split
  · split
    · refine Fine.bind (fine_number percent _) fun _ _ => ?_
      split
      · exact fine_ok trivial
      · exact fine_malformed
    · exact fine_malformed
  · exact fine_malformed

theorem fine_handleLine (rest : Text) : Fine (Misspelled text) (handleLine rest) fun _ => True := by
  refine Fine.bind (fine_handle _) fun _ _ => ?_
  dsimp only
  split
  · refine Fine.bind (fine_address _) fun _ _ => ?_
    split
    · exact fine_ok trivial
    · exact fine_malformed
  · exact fine_malformed

theorem fine_directive (percent : .char '%' ∈ text) (rest : Text) : Fine (Misspelled text) (directive rest) fun _ => True := by
  have closes : ∀ (found : Directive) (rest : Text), Fine (Misspelled text)
      (if endsLine rest then .ok (found, rest.drop 1) else .error .malformed) fun _ => True := by
    intro found rest
    split
    · exact fine_ok trivial
    · exact fine_malformed
  unfold directive
  dsimp only
  split
  · exact fine_malformed
  · split
    · exact Fine.bind (fine_version percent _) fun _ _ => closes _ _
    · split
      · exact Fine.bind (fine_handleLine _) fun _ _ => closes _ _
      · exact closes _ _

end Property

namespace Quoted

theorem fine_breaks (atStart : Bool) (rest : Text) : Fine (Misspelled text) (breaks atStart rest) fun found => found.2 ⊆ rest := by
  induction rest generalizing atStart with
  | nil =>
    unfold breaks
    split
    · exact fine_malformed
    · exact fine_ok (List.Subset.refl _)
  | cons c rest ih =>
    unfold breaks
    split
    · exact fine_malformed
    · dsimp only
      split
      · exact (ih false).mono (fun _ => id) fun _ within => List.subset_cons_of_subset c within
      · split
        · exact (ih true).map fun _ within => List.subset_cons_of_subset c within
        · exact fine_ok (List.Subset.refl _)

theorem fine_gap (rest : Text) : Fine (Misspelled text) (gap rest) fun found => found.2 ⊆ rest := by
  have dropped : rest.dropWhile isGap ⊆ rest := (List.dropWhile_suffix _).subset
  unfold gap
  dsimp only
  split
  · exact fine_malformed
  · rename_i c more same
    rw [same] at dropped
    split
    · have later : more ⊆ rest := List.Subset.trans (List.subset_cons_self c more) dropped
      exact (fine_breaks true more).map fun _ within => List.Subset.trans within later
    · exact fine_ok dropped

theorem subset_of_hexValue {width value number : Nat} {after : Text} (read : hexValue width value rest = some (number, after)) :
    after ⊆ rest := by
  induction width generalizing value rest with
  | zero =>
    cases read
    exact List.Subset.refl _
  | succ width ih =>
    cases rest with
    | nil => cases read
    | cons c rest =>
      rw [hexValue] at read
      split at read
      · exact List.subset_cons_of_subset c (ih read)
      · cases read

theorem fine_escape (backslash : .char '\\' ∈ text) (rest : Text) :
    Fine (Misspelled text) (escape rest) fun found => found.2 ⊆ rest := by
  cases rest with
  | nil => exact fine_malformed
  | cons c rest =>
    rw [escape]
    split
    · exact fine_ok (List.subset_cons_self c rest)
    · split
      · rename_i value after read
        have within : after ⊆ c :: rest := List.subset_cons_of_subset c (subset_of_hexValue read)
        split
        · exact fine_ok within
        · rename_i none
          have large : 0x110000 ≤ value := by
            by_contra small
            have isSome := CodePoint.ofNat?_isSome (Nat.lt_of_not_le small)
            rw [none] at isSome
            cases isSome
          exact fine_error (.escape backslash large)
      · exact fine_malformed
    · split
      · exact (fine_breaks true rest).mono (fun _ => id) fun _ within => List.subset_cons_of_subset c within
      · exact fine_malformed

theorem fine_readFrom (double : Bool) (fuel : Nat) (within : rest ⊆ text) :
    Fine (Misspelled text) (readFrom double fuel rest) fun _ => True := by
  induction fuel generalizing rest with
  | zero => exact fine_malformed
  | succ fuel ih =>
    cases rest with
    | nil => exact fine_malformed
    | cons c rest =>
      have later : rest ⊆ text := List.Subset.trans (List.subset_cons_self c rest) within
      have literal : Fine (Misspelled text) (.ok ([c], rest)) fun found => found.2 ⊆ text := fine_ok later
      unfold readFrom
      dsimp only
      split
      · exact fine_ok trivial
      · rename_i piece given
        refine Fine.bind (?_ : Fine (Misspelled text) piece fun found => found.2 ⊆ text) fun found inside =>
          (ih inside).bind fun _ _ => fine_ok trivial
        split at given
        · split at given
          · cases given
            exact literal
          · split at given
            · split at given
              · cases given
                exact fine_ok (List.Subset.trans (List.subset_cons_self _ _) later)
              · cases given
            · cases given
        · split at given
          · split at given
            · cases given
            · cases given
              exact literal
          · split at given
            · rename_i backslash
              cases given
              split
              · have spelled := fine_escape (within (by simp [backslash])) rest
                exact spelled.mono (fun _ => id) fun _ inside => List.Subset.trans inside later
              · exact literal
            · split at given
              · cases given
                exact (fine_gap (c :: rest)).mono (fun _ => id) fun _ inside => List.Subset.trans inside within
              · cases given
                exact literal

theorem fine_read (double : Bool) (within : rest ⊆ text) : Fine (Misspelled text) (read double rest) fun _ => True :=
  fine_readFrom double _ within

end Quoted

namespace Block

theorem fine_increment (rest : Text) : Fine (Misspelled text) (increment rest) fun _ => True := by
  unfold increment
  split
  · exact fine_ok trivial
  · split
    · exact fine_malformed
    · exact fine_ok trivial
    · exact fine_ok trivial

theorem fine_afterIgnoredLine (rest : Text) : Fine (Misspelled text) (afterIgnoredLine rest) fun _ => True := by
  unfold afterIgnoredLine
  dsimp only
  split
  · exact fine_ok trivial
  · split
    · exact fine_ok trivial
    · exact fine_malformed

theorem fine_header (rest : Text) : Fine (Misspelled text) (header rest) fun _ => True := by
  have closes : ∀ (found : Header) (rest : Text), Fine (Misspelled text)
      (if endsHeader rest then do
        let rest ← afterIgnoredLine rest
        .ok (found, rest)
      else .error .malformed) fun _ => True := by
    intro found rest
    split
    · exact Fine.bind (fine_afterIgnoredLine _) fun _ _ => fine_ok trivial
    · exact fine_malformed
  refine Fine.bind (fine_increment _) fun _ _ => ?_
  exact closes ⟨_, _⟩ _

theorem fine_read (isFolded : Bool) (outer : Option Nat) (rest : Text) :
    Fine (Misspelled text) (read isFolded outer rest) fun _ => True := by
  refine Fine.bind (fine_header _) fun _ _ => ?_
  have closes : ∀ (indent column : Nat) (chomping : Chomping) (blank rest : Text), Fine (Misspelled text)
      (if column = indent ∧ !rest.isEmpty then .ok (lines isFolded chomping indent rest.length blank rest)
      else if chomping = .keep then .ok (blank, rest)
      else .ok ([], rest)) fun _ => True := by
    intro indent column chomping blank rest
    split
    · exact fine_ok trivial
    · split
      · exact fine_ok trivial
      · exact fine_ok trivial
  dsimp only
  split
  · exact closes _ _ _ _ _
  · exact closes _ _ _ _ _

end Block

def Token.Spelled (text : Text) : Token → Prop
  | .tag _ _ => .char '!' ∈ text
  | .stop _ => False
  | _ => True

namespace Lexer

-- A place inside a text, with tokens that it spells.
structure Within (text : Text) (l : Lexer) : Prop where
  rest : l.cursor.rest ⊆ text
  tokens : ∀ token ∈ l.tokens, token.Spelled text

variable {l : Lexer}

theorem rest_forward (count : Nat) (cursor : Cursor) : (cursor.forward count).rest ⊆ cursor.rest := by
  induction count generalizing cursor with
  | zero => exact List.Subset.refl _
  | succ count ih =>
    unfold Cursor.forward
    split
    · exact List.Subset.refl _
    · rename_i c rest same
      rw [same]
      have later := List.subset_cons_self c rest
      split
      · exact List.Subset.trans (ih _) later
      · split
        · exact List.Subset.trans (ih _) later
        · exact List.Subset.trans (ih _) later

theorem Within.of_same {other : Lexer} (within : l.Within text) (cursor : other.cursor = l.cursor)
    (tokens : other.tokens = l.tokens) : other.Within text := by
  refine ⟨?_, ?_⟩
  · rw [cursor]
    exact within.rest
  · rw [tokens]
    exact within.tokens

theorem Within.emit {token : Token} (within : l.Within text) (spelled : token.Spelled text) : (l.emit token).Within text :=
  ⟨within.rest, List.forall_mem_cons.mpr ⟨spelled, within.tokens⟩⟩

theorem Within.emitAt {token : Token} (within : l.Within text) (place : Nat) (spelled : token.Spelled text) :
    (l.emitAt place token).Within text := by
  refine ⟨within.rest, ?_⟩
  intro other member
  rcases List.mem_append.mp member with before | after
  · exact within.tokens other (List.mem_of_mem_take before)
  · rcases List.mem_cons.mp after with rfl | after
    · exact spelled
    · exact within.tokens other (List.mem_of_mem_drop after)

theorem Within.moved (within : l.Within text) (rest : Text) : (l.moved rest).Within text :=
  ⟨List.Subset.trans (rest_forward _ _) within.rest, within.tokens⟩

theorem Within.take (within : l.Within text) (length : Nat) : (l.take length).Within text :=
  ⟨List.Subset.trans (rest_forward _ _) within.rest, within.tokens⟩

theorem Within.atNext (within : l.Within text) : l.atNext.Within text := ⟨(within.moved _).rest, within.tokens⟩

theorem within_ended (within : l.Within text) (columns : List Nat) :
    (columns.foldl (fun l _ => l.emit .blockEnd) l).Within text := by
  induction columns generalizing l with
  | nil => exact within
  | cons column rest ih => exact ih (within.emit trivial)

theorem Within.unwoundTo (within : l.Within text) (column : Nat) : (l.unwoundTo column).Within text := by
  unfold Lexer.unwoundTo
  split
  · exact within
  · apply within_ended
    exact within.of_same rfl rfl

theorem Within.unwound (within : l.Within text) : l.unwound.Within text := by
  unfold Lexer.unwound
  split
  · exact within
  · apply within_ended
    exact within.of_same rfl rfl

theorem Within.withBlock {token : Token} (within : l.Within text) (spelled : token.Spelled text) :
    (l.withBlock token).Within text := by
  unfold Lexer.withBlock
  split
  · exact ⟨within.rest, (within.emit spelled).tokens⟩
  · exact within

abbrev Scans (text : Text) (result : Except Fault Lexer) : Prop := Fine (Misspelled text) result (Within text)

theorem scans_withFreshKeys (within : l.Within text) : Scans text l.withFreshKeys := by
  unfold withFreshKeys
  split
  · exact fine_malformed
  · exact fine_ok ⟨within.rest, within.tokens⟩

theorem scans_withoutKey (within : l.Within text) : Scans text l.withoutKey := by
  unfold withoutKey
  split
  · split
    · exact fine_malformed
    · exact fine_ok ⟨within.rest, within.tokens⟩
  · exact fine_ok within

theorem scans_withKey (within : l.Within text) : Scans text l.withKey := by
  unfold withKey
  split
  · exact (scans_withoutKey within).bind fun _ inside => fine_ok ⟨inside.rest, inside.tokens⟩
  · exact fine_ok within

theorem scans_betweenDocuments (within : l.Within text) : Scans text l.betweenDocuments :=
  (scans_withoutKey within.unwound).map fun _ inside => ⟨inside.rest, inside.tokens⟩

theorem scans_flowStart {token : Token} (within : l.Within text) (spelled : token.Spelled text) :
    Scans text (l.flowStart token) := by
  apply (scans_withKey within).map
  intro _ inside
  refine Within.emit (Within.take ?_ 1) spelled
  exact inside.of_same rfl rfl

theorem scans_flowEnd {token : Token} (within : l.Within text) (spelled : token.Spelled text) : Scans text (l.flowEnd token) := by
  apply (scans_withoutKey within).bind
  intro _ inside
  split
  · exact fine_malformed
  · apply fine_ok
    refine Within.emit (Within.take ?_ 1) spelled
    exact inside.of_same rfl rfl

theorem scans_mark {token : Token} (within : l.Within text) (spelled : token.Spelled text) :
    Scans text (l.withoutKey >>= fun l => .ok ((l.take 1).emit token)) :=
  (scans_withoutKey within).bind fun _ inside => fine_ok ((inside.take 1).emit spelled)

theorem within_opened {token : Token} (within : l.Within text) (spelled : token.Spelled text) :
    (if l.inFlow then l else l.withBlock token).Within text := by
  split
  · exact within
  · exact within.withBlock spelled

theorem scans_entry (within : l.Within text) : Scans text l.entry := by
  refine scans_mark ?_ trivial
  exact within.of_same rfl rfl

theorem scans_blockEntry (within : l.Within text) : Scans text l.blockEntry := by
  have spelled : Token.blockSequence.Spelled text := trivial
  unfold blockEntry
  split
  · exact fine_malformed
  · refine scans_mark ?_ trivial
    exact (within_opened within spelled).of_same rfl rfl

theorem scans_explicitKey (within : l.Within text) : Scans text l.explicitKey := by
  have spelled : Token.blockMapping.Spelled text := trivial
  unfold explicitKey
  split
  · exact fine_malformed
  · refine scans_mark ?_ trivial
    exact (within_opened within spelled).of_same rfl rfl

theorem scans_colon (within : l.Within text) : Scans text l.colon := by
  have key : Token.key.Spelled text := trivial
  have mapping : Token.blockMapping.Spelled text := trivial
  unfold colon
  split
  · rename_i start _
    have keyed : (l.eraseKey.emitAt start.token .key).Within text := by
      refine Within.emitAt ?_ _ key
      exact within.of_same rfl rfl
    apply fine_ok
    refine Within.emit (Within.take ?_ 1) trivial
    split
    · exact (keyed.emitAt start.token mapping).of_same rfl rfl
    · exact keyed.of_same rfl rfl
  · split
    · apply fine_ok
      refine Within.emit (Within.take ?_ 1) trivial
      exact within.of_same rfl rfl
    · split
      · apply fine_ok
        refine Within.emit (Within.take ?_ 1) trivial
        exact within.withBlock mapping
      · exact fine_malformed

theorem scans_marks {token : Token} (within : l.Within text) (spelled : token.Spelled text) :
    Scans text (l.betweenDocuments.map fun l => (l.take 3).emit token) :=
  (scans_betweenDocuments within).map fun _ inside => (inside.take 3).emit spelled

theorem scans_item {token : Token} (within : l.Within text) (spelled : token.Spelled text) (rest : Text) :
    Scans text (l.item token rest) := by
  apply (scans_withKey within).map
  intro _ inside
  refine Within.emit (Within.moved ?_ rest) spelled
  exact inside.of_same rfl rfl

theorem scans_read {α : Type} {read : Except Fault (α × Text)} (token : α → Token) (within : l.Within text)
    (fine : Fine (Misspelled text) read fun _ => True) (spelled : ∀ value, (token value).Spelled text) :
    Scans text (read >>= fun found => l.item (token found.1) found.2) := by
  apply fine.bind
  intro found _
  exact scans_item within (spelled found.1) found.2

theorem scans_blockScalar (within : l.Within text) (isFolded : Bool) (rest : Text) : Scans text (l.blockScalar isFolded rest) := by
  unfold blockScalar
  have given : Scans text { l with mayStartKey := true }.withoutKey := scans_withoutKey (within.of_same rfl rfl)
  apply given.bind
  intro _ inside
  apply (Block.fine_read _ _ _).bind
  intro _ _
  apply fine_ok
  exact Within.emit (inside.moved _) trivial

theorem scans_plainScalar (within : l.Within text) : Scans text l.plainScalar := by
  apply (scans_withKey within).bind
  intro _ inside
  apply fine_ok
  refine Within.emit (Within.moved ?_ _) trivial
  exact inside.of_same rfl rfl

theorem scans_token {c : CodePoint} (within : l.Within text) (here : l.cursor.rest = c :: rest) : Scans text (l.token c rest) := by
  have first : c ∈ text := by
    apply within.rest
    rw [here]
    exact List.mem_cons_self ..
  have later : rest ⊆ text := by
    intro other member
    apply within.rest
    rw [here]
    exact List.mem_cons_of_mem c member
  unfold token
  refine fine_ite (fun start => ?_) fun _ => ?_
  · have percent : .char '%' ∈ text := by
      rw [← start.1]
      exact first
    apply (scans_betweenDocuments within).bind
    intro _ inside
    apply (Property.fine_directive percent rest).bind
    intro _ _
    apply fine_ok
    exact Within.emit (inside.moved _) trivial
  refine fine_ite (fun _ => scans_marks within trivial) fun _ => ?_
  refine fine_ite (fun _ => scans_marks within trivial) fun _ => ?_
  refine fine_ite (fun _ => scans_flowStart within trivial) fun _ => ?_
  refine fine_ite (fun _ => scans_flowStart within trivial) fun _ => ?_
  refine fine_ite (fun _ => scans_flowEnd within trivial) fun _ => ?_
  refine fine_ite (fun _ => scans_flowEnd within trivial) fun _ => ?_
  refine fine_ite (fun _ => scans_entry within) fun _ => ?_
  refine fine_ite (fun _ => scans_blockEntry within) fun _ => ?_
  refine fine_ite (fun _ => scans_explicitKey within) fun _ => ?_
  refine fine_ite (fun _ => scans_colon within) fun _ => ?_
  refine fine_ite (fun _ => scans_read .alias within (Property.fine_name rest) fun _ => trivial) fun _ => ?_
  refine fine_ite (fun _ => scans_read .anchor within (Property.fine_name rest) fun _ => trivial) fun _ => ?_
  refine fine_ite (fun mark => ?_) fun _ => ?_
  · have spelled : .char '!' ∈ text := by
      rw [← mark]
      exact first
    exact scans_read (fun found => .tag found.1 found.2) within (Property.fine_tag rest) fun _ => spelled
  refine fine_ite (fun _ => scans_blockScalar within _ rest) fun _ => ?_
  refine fine_ite (fun _ => scans_read (.scalar false) within (Quoted.fine_read _ later) fun _ => trivial) fun _ => ?_
  exact fine_ite (fun _ => scans_plainScalar within) fun _ => fine_malformed

theorem scans_step (within : l.Within text) : Fine (Misspelled text) l.step fun found => found.1.Within text := by
  unfold step
  apply (scans_withFreshKeys within.atNext).bind
  intro fresh inside
  have unwound := inside.unwoundTo fresh.cursor.column
  dsimp only
  split
  · exact (scans_betweenDocuments unwound).map fun _ inside => inside
  · rename_i here
    exact (scans_token unwound here).map fun _ inside => inside

-- The tokens of a text, up to the last one, which may tell what is wrong with it.
theorem token_of_run (within : l.Within text) (fuel : Nat) : ∀ token ∈ l.run fuel,
    token.Spelled text ∨ token = .stop none ∨ ∃ fault, token = .stop (some fault) ∧ Misspelled text fault := by
  have stops : ∀ (l : Lexer) (fault : Fault), l.Within text → Misspelled text fault → ∀ token ∈ l.stopped fault,
      token.Spelled text ∨ token = .stop none ∨ ∃ fault, token = .stop (some fault) ∧ Misspelled text fault := by
    intro l fault within told token member
    rcases List.mem_append.mp member with settled | last
    · exact .inl (within.tokens token (List.mem_reverse.mp (List.mem_of_mem_take settled)))
    · cases List.mem_singleton.mp last
      exact .inr (.inr ⟨fault, rfl, told⟩)
  induction fuel generalizing l with
  | zero => exact stops l .malformed within .malformed
  | succ fuel ih =>
    obtain ⟨ofError, ofOk⟩ := scans_step within
    unfold run
    split
    · rename_i fault refused
      exact stops l fault within (ofError fault refused)
    · rename_i next went
      have inside := ofOk _ went
      intro token member
      rcases List.mem_cons.mp (List.mem_reverse.mp member) with rfl | member
      · exact .inr (.inl rfl)
      · exact .inl (inside.tokens token member)
    · rename_i next went
      exact ih (ofOk _ went)

end Lexer

theorem token_of_text (text : Text) : ∀ token ∈ Token.ofText text,
    token.Spelled text ∨ token = .stop none ∨ ∃ fault, token = .stop (some fault) ∧ Misspelled text fault := by
  unfold Token.ofText
  split
  · have start : (Lexer.start text).Within text := ⟨List.Subset.refl _, nofun⟩
    exact Lexer.token_of_run start _
  · intro token member
    cases List.mem_singleton.mp member
    exact .inr (.inr ⟨_, rfl, .malformed⟩)

end ChangeCapture.Yaml
