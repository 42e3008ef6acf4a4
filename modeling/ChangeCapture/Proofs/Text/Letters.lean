import ChangeCapture.Proofs.Text.CodePoint
import ChangeCapture.Text.Case

namespace ChangeCapture

namespace CodePoint

variable {c : CodePoint}

theorem isAscii_iff : c.isAscii ↔ c.toNat < 0x80 := by simp [isAscii]

theorem ascii_of_isLetter (letter : c.isLetter) : c.isAscii := by
  simp only [isLetter, isLowerLetter, isUpperLetter, Bool.or_eq_true, Bool.and_eq_true, decide_eq_true_eq] at letter
  rw [isAscii_iff]
  omega

theorem ascii_of_isDigit (digit : c.isDigit) : c.isAscii := by
  simp only [isDigit, Bool.and_eq_true, decide_eq_true_eq] at digit
  rw [isAscii_iff]
  omega

theorem toNat_upperOne (ascii : c.isAscii) :
    c.upperOne.toNat = if 0x61 ≤ c.toNat ∧ c.toNat ≤ 0x7A then c.toNat - 0x20 else c.toNat := by
  have small := isAscii_iff.mp ascii
  simp only [upperOne, ascii, if_true, isLowerLetter, Bool.and_eq_true, decide_eq_true_eq]
  split
  · exact toNat_ofNat (by omega)
  · rfl

theorem toNat_lowerOne (ascii : c.isAscii) :
    c.lowerOne.toNat = if 0x41 ≤ c.toNat ∧ c.toNat ≤ 0x5A then c.toNat + 0x20 else c.toNat := by
  have small := isAscii_iff.mp ascii
  simp only [lowerOne, ascii, if_true, isUpperLetter, Bool.and_eq_true, decide_eq_true_eq]
  split
  · exact toNat_ofNat (by omega)
  · rfl

theorem ascii_upperOne (ascii : c.isAscii) : c.upperOne.isAscii := by
  have small := isAscii_iff.mp ascii
  rw [isAscii_iff, toNat_upperOne ascii]
  split <;> omega

theorem ascii_lowerOne (ascii : c.isAscii) : c.lowerOne.isAscii := by
  have small := isAscii_iff.mp ascii
  rw [isAscii_iff, toNat_lowerOne ascii]
  split <;> omega

theorem upperOne_upperOne (ascii : c.isAscii) : c.upperOne.upperOne = c.upperOne := by
  apply toNat_injective
  rw [toNat_upperOne (ascii_upperOne ascii), toNat_upperOne ascii]
  grind

theorem upperOne_lowerOne (ascii : c.isAscii) : c.lowerOne.upperOne = c.upperOne := by
  apply toNat_injective
  rw [toNat_upperOne (ascii_lowerOne ascii), toNat_lowerOne ascii, toNat_upperOne ascii]
  grind

theorem lowerOne_upperOne (ascii : c.isAscii) : c.upperOne.lowerOne = c.lowerOne := by
  apply toNat_injective
  rw [toNat_lowerOne (ascii_upperOne ascii), toNat_upperOne ascii, toNat_lowerOne ascii]
  grind

end CodePoint

namespace Text

variable {text : Text}

theorem isAscii_cons {c : CodePoint} {rest : Text} : isAscii (c :: rest) ↔ c.isAscii ∧ isAscii rest := by
  simp [isAscii]

theorem upper_of_ascii (ascii : text.isAscii) : text.upper = text.map CodePoint.upperOne := by
  induction text with
  | nil => rfl
  | cons c rest ih =>
    obtain ⟨first, later⟩ := isAscii_cons.mp ascii
    have step : upper (c :: rest) = c.upper ++ upper rest := by simp [upper]
    rw [step, ih later]
    simp [CodePoint.upper, first]

theorem lowerFrom_of_ascii (before : Text) (ascii : text.isAscii) :
    lowerFrom before text = text.map CodePoint.lowerOne := by
  induction text generalizing before with
  | nil => rfl
  | cons c rest ih =>
    obtain ⟨first, later⟩ := isAscii_cons.mp ascii
    have small := CodePoint.isAscii_iff.mp first
    have sigma : c.toNat ≠ 0x3A3 := by omega
    have dotted : c.toNat ≠ 0x130 := by omega
    simp [lowerFrom, sigma, CodePoint.lower, dotted, ih _ later]

theorem lower_of_ascii (ascii : text.isAscii) : text.lower = text.map CodePoint.lowerOne :=
  lowerFrom_of_ascii [] ascii

theorem ascii_upper (ascii : text.isAscii) : text.upper.isAscii := by
  rw [upper_of_ascii ascii]
  simp only [isAscii, List.all_eq_true, List.mem_map] at ascii ⊢
  rintro _ ⟨c, member, rfl⟩
  exact CodePoint.ascii_upperOne (ascii c member)

theorem ascii_lower (ascii : text.isAscii) : text.lower.isAscii := by
  rw [lower_of_ascii ascii]
  simp only [isAscii, List.all_eq_true, List.mem_map] at ascii ⊢
  rintro _ ⟨c, member, rfl⟩
  exact CodePoint.ascii_lowerOne (ascii c member)

theorem upper_upper (ascii : text.isAscii) : text.upper.upper = text.upper := by
  rw [upper_of_ascii (ascii_upper ascii), upper_of_ascii ascii, List.map_map]
  exact List.map_congr_left fun c member => CodePoint.upperOne_upperOne (List.all_eq_true.mp ascii c member)

theorem upper_lower (ascii : text.isAscii) : text.lower.upper = text.upper := by
  rw [upper_of_ascii (ascii_lower ascii), upper_of_ascii ascii, lower_of_ascii ascii, List.map_map]
  exact List.map_congr_left fun c member => CodePoint.upperOne_lowerOne (List.all_eq_true.mp ascii c member)

theorem lower_upper (ascii : text.isAscii) : text.upper.lower = text.lower := by
  rw [lower_of_ascii (ascii_upper ascii), upper_of_ascii ascii, lower_of_ascii ascii, List.map_map]
  exact List.map_congr_left fun c member => CodePoint.lowerOne_upperOne (List.all_eq_true.mp ascii c member)

theorem lower_lower (ascii : text.isAscii) : text.lower.lower = text.lower := by
  rw [← lower_upper (ascii_lower ascii), upper_lower ascii, lower_upper ascii]

theorem length_upper (ascii : text.isAscii) : text.upper.length = text.length := by rw [upper_of_ascii ascii, List.length_map]

end Text

end ChangeCapture
