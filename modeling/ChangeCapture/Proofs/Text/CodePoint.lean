import ChangeCapture.Text.Basic
import Mathlib.Data.List.Basic

namespace ChangeCapture.CodePoint

@[simp] theorem toNat_char (c : Char) : (CodePoint.char c).toNat = c.toNat := rfl

theorem toNat_surrogate (offset : Fin 0x800) :
    0xD800 ≤ (CodePoint.surrogate offset).toNat ∧ (CodePoint.surrogate offset).toNat < 0xE000 := by
  have bound := offset.isLt
  simp only [toNat]
  omega

theorem char_range (c : Char) : c.toNat < 0xD800 ∨ 0xE000 ≤ c.toNat ∧ c.toNat < 0x110000 := by
  have valid := c.valid
  simp only [UInt32.isValidChar, Nat.isValidChar] at valid
  change c.toNat < 0xD800 ∨ 0xDFFF < c.toNat ∧ c.toNat < 0x110000 at valid
  omega

-- The numbers tell code points apart: no character lies among the halves.
theorem toNat_injective {a b : CodePoint} (same : a.toNat = b.toNat) : a = b := by
  cases a with
  | char c =>
    cases b with
    | char d => exact congrArg _ (Char.ext (UInt32.toNat_inj.mp same))
    | surrogate offset =>
      have half := toNat_surrogate offset
      have range := char_range c
      simp only [toNat_char] at same
      omega
  | surrogate offset =>
    cases b with
    | char d =>
      have half := toNat_surrogate offset
      have range := char_range d
      simp only [toNat_char] at same
      omega
    | surrogate other =>
      simp only [toNat] at same
      exact congrArg _ (Fin.ext (by omega))

@[simp] theorem toNat_inj {a b : CodePoint} : a.toNat = b.toNat ↔ a = b :=
  ⟨toNat_injective, congrArg toNat⟩

theorem ofNat?_toNat {n : Nat} {c : CodePoint} (made : ofNat? n = some c) : c.toNat = n := by
  by_cases half : 0xD800 ≤ n ∧ n < 0xE000
  · rw [ofNat?, dif_pos half] at made
    cases made
    simp only [toNat]
    omega
  · by_cases valid : n.isValidChar
    · rw [ofNat?, dif_neg half, dif_pos valid] at made
      cases made
      rfl
    · rw [ofNat?, dif_neg half, dif_neg valid] at made
      cases made

theorem ofNat?_isSome {n : Nat} (small : n < 0x110000) : (ofNat? n).isSome := by
  by_cases half : 0xD800 ≤ n ∧ n < 0xE000
  · rw [ofNat?, dif_pos half]
    rfl
  · have valid : n.isValidChar := by
      simp only [Nat.isValidChar]
      omega
    rw [ofNat?, dif_neg half, dif_pos valid]
    rfl

theorem toNat_ofNat {n : Nat} (small : n < 0x110000) : (ofNat n).toNat = n := by
  obtain ⟨c, made⟩ := Option.isSome_iff_exists.mp (ofNat?_isSome small)
  simp [ofNat, made, ofNat?_toNat made]

theorem toNat_lt (c : CodePoint) : c.toNat < 0x110000 := by
  cases c with
  | char c =>
    have range := char_range c
    simp only [toNat_char]
    omega
  | surrogate offset =>
    have half := toNat_surrogate offset
    omega

@[simp] theorem ofNat_toNat (c : CodePoint) : ofNat c.toNat = c := toNat_injective (toNat_ofNat c.toNat_lt)

end ChangeCapture.CodePoint
