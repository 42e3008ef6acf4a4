import ChangeCapture.Proofs.Outcome
import ChangeCapture.Proofs.Spec.Token
import ChangeCapture.Query.Ordering

namespace ChangeCapture

namespace CodePoint

variable {c d : CodePoint}

theorem foldKey_of_ascii (ascii : c.isAscii) : c.foldKey = c.upperOne.toNat := by
  have small := isAscii_iff.mp ascii
  have still := isAscii_iff.mp (ascii_upperOne ascii)
  have dotted : c.toNat ≠ 0x130 := by omega
  simp only [foldKey, dotted, if_false, upperOne_lowerOne ascii, pairedLetter]
  split
  · omega
  · split
    · omega
    · split <;> omega

theorem sameLetter_iff (ascii : c.isAscii) (other : d.isAscii) : sameLetter c d ↔ c.upperOne = d.upperOne := by
  rw [sameLetter, beq_iff_eq, foldKey_of_ascii ascii, foldKey_of_ascii other]
  exact toNat_inj

theorem isLetter_of_sameLetter (ascii : c.isAscii) (other : d.isAscii) (letter : c.isLetter) (same : sameLetter c d) :
    d.isLetter := by
  have small := isAscii_iff.mp ascii
  simp only [sameLetter, beq_iff_eq, foldKey_of_ascii ascii, foldKey_of_ascii other, toNat_upperOne ascii,
    toNat_upperOne other] at same
  simp only [isLetter, isLowerLetter, isUpperLetter, Bool.or_eq_true, Bool.and_eq_true, decide_eq_true_eq] at letter ⊢
  split at same <;> split at same <;> omega

theorem isWord_of_isNamePart (part : Identifier.isNamePart c) : c.isWord := by
  have ascii := Identifier.ascii_of_isNamePart part
  simp only [Identifier.isNamePart, Bool.or_eq_true, decide_eq_true_eq] at part
  rcases part with (letter | digit) | rfl
  · simp [isWord, ascii, letter]
  · simp [isWord, ascii, digit]
  · decide

end CodePoint

namespace Text

variable {word key text after : Text}

theorem afterWord?_eq_some_iff : afterWord? word text = some after ↔
    ∃ taken, text = taken ++ after ∧ List.Forall₂ (fun a b => CodePoint.sameLetter a b) word taken := by
  induction word generalizing text with
  | nil =>
    constructor
    · intro same
      cases same
      exact ⟨[], rfl, .nil⟩
    · intro held
      obtain ⟨taken, rfl, ⟨⟩⟩ := held
      rfl
  | cons a word ih =>
    cases text with
    | nil =>
      simp only [afterWord?, reduceCtorEq, false_iff, not_exists, not_and]
      rintro taken empty each
      cases each
      cases empty
    | cons b text =>
      constructor
      · intro found
        unfold afterWord? at found
        split at found
        · rename_i same
          obtain ⟨taken, rfl, each⟩ := ih.mp found
          exact ⟨b :: taken, rfl, .cons same each⟩
        · cases found
      · intro held
        obtain ⟨taken, whole, each⟩ := held
        cases each with
        | cons same each =>
          simp only [List.cons_append, List.cons.injEq] at whole
          obtain ⟨rfl, rfl⟩ := whole
          rw [afterWord?, if_pos same]
          exact ih.mpr ⟨_, rfl, each⟩

theorem sameLetters_iff (ascii : key.isAscii) (other : word.isAscii) :
    List.Forall₂ (fun a b => CodePoint.sameLetter a b) key word ↔ key.upper = word.upper := by
  rw [upper_of_ascii ascii, upper_of_ascii other]
  induction key generalizing word with
  | nil => cases word <;> simp
  | cons a key ih =>
    cases word with
    | nil => simp
    | cons b word =>
      obtain ⟨ofKey, later⟩ := isAscii_cons.mp ascii
      obtain ⟨ofWord, rest⟩ := isAscii_cons.mp other
      simp [CodePoint.sameLetter_iff ofKey ofWord, ih later rest]

end Text

namespace Ordering

variable {key word rest : Text}

theorem closesWith_iff {after : Text} : closesWith key after ↔ ∃ start ∈ Text.afterBlanks after,
    ∃ body ∈ Text.afterQuote start, ∃ rest, Text.afterWord? key body = some rest ∧ (Text.afterQuote rest).any isClosing := by
  simp only [closesWith, List.any_eq_true]
  refine exists_congr fun start => and_congr_right fun _ => exists_congr fun body => and_congr_right fun _ => ?_
  cases Text.afterWord? key body <;> simp

-- What may follow a name in a query without the name becoming a part of an ordering
-- clause: the end, or a mark that is no letter and, after blanks, not the second word.
def separates : Text → Bool
  | [] => true
  | c :: rest =>
    c.isAscii && !c.isWord && (Text.afterWord? "BY" ((c :: rest).dropWhile CodePoint.isBlank)).isNone

theorem not_afterKeyword? {c : CodePoint} (ascii : c.isAscii) (mark : c.isWord = false) (rest : Text) :
    afterKeyword? (c :: rest) = none := by
  have other : CodePoint.sameLetter (.char 'O') c = false := by
    cases same : CodePoint.sameLetter (.char 'O') c with
    | false => rfl
    | true =>
      have letter := CodePoint.isLetter_of_sameLetter (by decide) ascii (by decide) same
      simp [CodePoint.isWord, ascii, letter] at mark
  have missed : Text.afterWord? "ORDER" (c :: rest) = none := by
    change (if CodePoint.sameLetter (.char 'O') c = true then _ else none) = none
    rw [other]
    rfl
  simp [afterKeyword?, missed]

theorem found_of_separates (inWord : Bool) (apart : separates rest) : found inWord rest = found false rest := by
  cases rest with
  | nil => rfl
  | cons c rest =>
    simp only [separates, Bool.and_eq_true, Bool.not_eq_true'] at apart
    have none := not_afterKeyword? apart.1.1 apart.1.2 rest
    cases inWord <;> simp [found, none]

theorem afterKeyword?_name (parts : ∀ c ∈ word, Identifier.isNamePart c) (apart : separates rest) :
    afterKeyword? (word ++ rest) = none := by
  have follows : ∀ c tail, rest = c :: tail → c.isBlank →
      Text.afterWord? "BY" (tail.dropWhile CodePoint.isBlank) = none := by
    rintro c tail rfl blank
    simp only [separates, Bool.and_eq_true, Option.isNone_iff_eq_none, List.dropWhile_cons, blank, if_true] at apart
    exact apart.2
  unfold afterKeyword?
  split
  · rename_i c tail found
    split
    · rename_i blank
      obtain ⟨taken, whole, each⟩ := Text.afterWord?_eq_some_iff.mp found
      rcases List.append_eq_append_iff.mp whole with ⟨more, rfl, same⟩ | ⟨more, rfl, same⟩
      · cases more with
        | nil => exact follows c tail same blank
        | cons d more =>
          subst same
          simp only [List.cons_append, separates, Bool.and_eq_true, Bool.not_eq_true'] at apart
          obtain ⟨a, member, equal⟩ := exists_of_forall₂ each.flip (show d ∈ _ by simp)
          have letters : ∀ a ∈ Text.ofString "ORDER", a.isAscii ∧ a.isLetter := by decide
          have letter := CodePoint.isLetter_of_sameLetter (letters a member).1 apart.1.1 (letters a member).2 equal
          simp [CodePoint.isWord, apart.1.1, letter] at apart
      · cases more with
        | nil => exact follows c tail same.symm blank
        | cons d more =>
          simp only [List.cons_append, List.cons.injEq] at same
          have part : Identifier.isNamePart c := parts c (by simp [same.1])
          simp [Identifier.not_isBlank_of_isNamePart part] at blank
    · rfl
  · rfl

theorem found_in_name (parts : ∀ c ∈ word, Identifier.isNamePart c) (apart : separates rest) :
    found true (word ++ rest) = found false rest := by
  induction word with
  | nil => exact found_of_separates true apart
  | cons c word ih =>
    have later := ih fun c member => parts c (List.mem_cons_of_mem _ member)
    simpa [found, CodePoint.isWord_of_isNamePart (parts c (List.mem_cons_self ..))] using later

theorem found_name (parts : ∀ c ∈ word, Identifier.isNamePart c) (apart : separates rest) :
    found false (word ++ rest) = found false rest := by
  cases word with
  | nil => rfl
  | cons c word =>
    have none := afterKeyword?_name parts apart
    have later := found_in_name (fun c member => parts c (List.mem_cons_of_mem _ member)) apart
    simp only [List.cons_append] at none
    simpa [found, none, CodePoint.isWord_of_isNamePart (parts c (List.mem_cons_self ..))] using later

-- An accepted name may end in a line feed; the mark that follows it still separates.
theorem found_accepted {name : Text} (accepted : Identifier.accepts name) (apart : separates rest) :
    found false (name ++ rest) = found false rest := by
  have parts := Identifier.parts_of_accepts accepted
  rcases Text.withoutFinalBreak_cases name with same | same
  · rw [same]
    exact found_name parts apart
  · have broken : separates (.char '\n' :: rest) := by
      cases rest with
      | nil => rfl
      | cons c rest =>
        simp only [separates, Bool.and_eq_true] at apart ⊢
        exact ⟨by decide, by rw [List.dropWhile_cons]; exact apart.2⟩
    rw [same, List.append_assoc]
    have missed := not_afterKeyword? (c := .char '\n') (by decide) (by decide) rest
    have mark : CodePoint.isWord (.char '\n') = false := by decide
    have passed := found_name parts broken
    simpa [found, missed, mark] using passed

end Ordering

end ChangeCapture
