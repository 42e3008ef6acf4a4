import ChangeCapture.Proofs.Text.Letters
import ChangeCapture.Proofs.Text.Parts
import ChangeCapture.Spec.Token
import ChangeCapture.Text.Word
import Mathlib.Data.List.TakeDrop

namespace ChangeCapture

namespace Identifier

variable {c : CodePoint} {text : Text}

theorem isNamePart_of_isNameStart (letter : isNameStart c) : isNamePart c := by
  simp only [isNameStart] at letter
  simp [isNamePart, letter]

theorem ascii_of_isNamePart (part : isNamePart c) : c.isAscii := by
  simp only [isNamePart, Bool.or_eq_true, decide_eq_true_eq] at part
  rcases part with (letter | digit) | rfl
  · exact CodePoint.ascii_of_isLetter letter
  · exact CodePoint.ascii_of_isDigit digit
  · rfl

theorem not_isBlank_of_isNamePart (part : isNamePart c) : c.isBlank = false := by
  simp only [isNamePart, CodePoint.isLetter, CodePoint.isLowerLetter, CodePoint.isUpperLetter, CodePoint.isDigit,
    Bool.or_eq_true, Bool.and_eq_true, decide_eq_true_eq] at part
  have number : c.toNat = 0x5F ∨ 0x30 ≤ c.toNat ∧ c.toNat ≤ 0x7A := by
    rcases part with part | rfl
    · omega
    · exact .inl rfl
  simp only [CodePoint.isBlank, inRanges, List.any_cons, List.any_nil, Bool.or_eq_false_iff, Bool.and_eq_false_iff,
    decide_eq_false_iff_not]
  refine ⟨?_, ?_, ?_, ?_, ?_, ?_, ?_, ?_, ?_, ?_, trivial⟩ <;> omega

theorem isNameStart_upperOne (letter : isNameStart c) : isNameStart c.upperOne := by
  have ascii := ascii_of_isNamePart (isNamePart_of_isNameStart letter)
  simp only [isNameStart, CodePoint.isLetter, CodePoint.isLowerLetter, CodePoint.isUpperLetter, Bool.or_eq_true,
    Bool.and_eq_true, decide_eq_true_eq, CodePoint.toNat_upperOne ascii] at letter ⊢
  split <;> omega

theorem isNamePart_upperOne (part : isNamePart c) : isNamePart c.upperOne := by
  have ascii := ascii_of_isNamePart part
  simp only [isNamePart, Bool.or_eq_true, decide_eq_true_eq] at part
  rcases part with (letter | digit) | rfl
  · exact isNamePart_of_isNameStart (isNameStart_upperOne letter)
  · simp only [CodePoint.isDigit, Bool.and_eq_true, decide_eq_true_eq] at digit
    simp only [isNamePart, CodePoint.isDigit, CodePoint.toNat_upperOne ascii, Bool.or_eq_true, Bool.and_eq_true,
      decide_eq_true_eq]
    left; right
    split <;> omega
  · decide

theorem isNameStart_lowerOne (letter : isNameStart c) : isNameStart c.lowerOne := by
  have ascii := ascii_of_isNamePart (isNamePart_of_isNameStart letter)
  simp only [isNameStart, CodePoint.isLetter, CodePoint.isLowerLetter, CodePoint.isUpperLetter, Bool.or_eq_true,
    Bool.and_eq_true, decide_eq_true_eq, CodePoint.toNat_lowerOne ascii] at letter ⊢
  split <;> omega

theorem isNamePart_lowerOne (part : isNamePart c) : isNamePart c.lowerOne := by
  have ascii := ascii_of_isNamePart part
  simp only [isNamePart, Bool.or_eq_true, decide_eq_true_eq] at part
  rcases part with (letter | digit) | rfl
  · exact isNamePart_of_isNameStart (isNameStart_lowerOne letter)
  · simp only [CodePoint.isDigit, Bool.and_eq_true, decide_eq_true_eq] at digit
    simp only [isNamePart, CodePoint.isDigit, CodePoint.toNat_lowerOne ascii, Bool.or_eq_true, Bool.and_eq_true,
      decide_eq_true_eq]
    left; right
    split <;> omega
  · decide

theorem isName_iff : isName text ↔ ∃ first rest, text = first :: rest ∧ isNameStart first ∧ text.all isNamePart := by
  cases text with
  | nil => simp [isName]
  | cons first rest =>
    constructor
    · intro name
      simp only [isName, Bool.and_eq_true] at name
      exact ⟨first, rest, rfl, name.1, by simpa [isNamePart_of_isNameStart name.1] using name.2⟩
    · intro held
      obtain ⟨_, _, same, start, parts⟩ := held
      cases same
      simp only [List.all_cons, Bool.and_eq_true] at parts
      simp [isName, start, parts.2]

-- An accepted text is a name, or a name before one line feed.
theorem isName_of_accepts (accepted : accepts text) : isName text.withoutFinalBreak := by
  simp only [accepts, Bool.and_eq_true] at accepted
  exact accepted.2

theorem parts_of_accepts (accepted : accepts text) : ∀ c ∈ text.withoutFinalBreak, isNamePart c := by
  obtain ⟨_, _, _, _, parts⟩ := isName_iff.mp (isName_of_accepts accepted)
  exact List.all_eq_true.mp parts

theorem part_or_break (accepted : accepts text) : ∀ c ∈ text, isNamePart c ∨ c = .char '\n' := by
  intro c member
  rcases Text.withoutFinalBreak_cases text with same | same
  · exact .inl (parts_of_accepts accepted c (same ▸ member))
  · rw [same] at member
    rcases List.mem_append.mp member with inside | final
    · exact .inl (parts_of_accepts accepted c inside)
    · exact .inr (List.mem_singleton.mp final)

theorem ascii_of_accepts (accepted : accepts text) : text.isAscii := by
  apply List.all_eq_true.mpr
  intro c member
  rcases part_or_break accepted c member with part | rfl
  · exact ascii_of_isNamePart part
  · rfl

theorem parts_of_isName (name : isName text) : ∀ c ∈ text, isNamePart c := by
  obtain ⟨_, _, _, _, parts⟩ := isName_iff.mp name
  exact List.all_eq_true.mp parts

theorem ascii_of_isName (name : isName text) : text.isAscii :=
  List.all_eq_true.mpr fun c member => ascii_of_isNamePart (parts_of_isName name c member)

theorem isName_upper (name : isName text) : isName text.upper := by
  rw [Text.upper_of_ascii (ascii_of_isName name)]
  obtain ⟨first, rest, rfl, letter, parts⟩ := isName_iff.mp name
  refine isName_iff.mpr ⟨first.upperOne, rest.map CodePoint.upperOne, rfl, isNameStart_upperOne letter, ?_⟩
  rw [List.all_map]
  exact List.all_eq_true.mpr fun c member => isNamePart_upperOne (List.all_eq_true.mp parts c member)

theorem isName_lower (name : isName text) : isName text.lower := by
  rw [Text.lower_of_ascii (ascii_of_isName name)]
  obtain ⟨first, rest, rfl, letter, parts⟩ := isName_iff.mp name
  refine isName_iff.mpr ⟨first.lowerOne, rest.map CodePoint.lowerOne, rfl, isNameStart_lowerOne letter, ?_⟩
  rw [List.all_map]
  exact List.all_eq_true.mpr fun c member => isNamePart_lowerOne (List.all_eq_true.mp parts c member)

theorem isName_of_oneLine (accepted : accepts text) (oneLine : .char '\n' ∉ text) : isName text := by
  have name := isName_of_accepts accepted
  rwa [Text.withoutFinalBreak_of_not_mem oneLine] at name

theorem accepts_upper (accepted : accepts text) : accepts text.upper := by
  have upper := Text.upper_of_ascii (ascii_of_accepts accepted)
  have name := isName_upper (isName_of_accepts accepted)
  simp only [accepts, Bool.and_eq_true, decide_eq_true_eq] at accepted ⊢
  refine ⟨by rw [upper, List.length_map]; exact accepted.1, ?_⟩
  rcases Text.withoutFinalBreak_cases text with same | same
  · rw [← same] at name
    rwa [Text.withoutFinalBreak_of_not_mem fun member => absurd (parts_of_isName name _ member) (by decide)]
  · have last : Text.upper [.char '\n'] = [.char '\n'] := by decide
    have split : text.upper = text.withoutFinalBreak.upper ++ [.char '\n'] := by
      rw [← last, Text.upper, Text.upper, Text.upper, ← List.flatMap_append, ← same]
    rwa [split, Text.withoutFinalBreak, if_pos (by simp), List.dropLast_concat]

end Identifier

namespace Window

theorem isToken_iff {text : Text} : isToken text ↔ ∃ digits, text = digits ++ [.char 'm'] ∧ digits ≠ [] ∧
    ∀ c ∈ digits, c.isDigit := by
  unfold isToken
  rw [List.span_eq_takeWhile_dropWhile]
  constructor
  · intro token
    have joined : text.takeWhile CodePoint.isDigit ++ text.dropWhile CodePoint.isDigit = text := List.takeWhile_append_dropWhile
    have digits : (text.takeWhile CodePoint.isDigit).all CodePoint.isDigit := List.all_takeWhile
    generalize text.takeWhile CodePoint.isDigit = before at token joined digits
    generalize text.dropWhile CodePoint.isDigit = after at token joined
    split at token
    · rename_i found unit same
      cases same
      simp only [Bool.and_eq_true, Bool.not_eq_true', List.isEmpty_eq_false_iff, decide_eq_true_eq] at token
      rw [token.2] at joined
      exact ⟨before, joined.symm, token.1, List.all_eq_true.mp digits⟩
    · cases token
  · intro held
    obtain ⟨digits, rfl, present, each⟩ := held
    have unit : CodePoint.isDigit (.char 'm') = false := by decide
    rw [List.takeWhile_append_of_pos each, List.dropWhile_append_of_pos each]
    simp [List.takeWhile, List.dropWhile, unit, present]

end Window

end ChangeCapture
