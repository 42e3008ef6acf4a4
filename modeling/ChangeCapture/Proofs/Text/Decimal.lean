import ChangeCapture.Proofs.Text.CodePoint
import ChangeCapture.Text.Decimal
import Mathlib.Algebra.Group.Nat.Defs
import Mathlib.Data.List.Induction

namespace ChangeCapture.Text

variable {n bound : Nat} {digits text other : Text}

theorem toNat_digit {d : Nat} (small : d < 10) : (digit d).toNat = 0x30 + d := CodePoint.toNat_ofNat (by omega)

theorem isDigit_digit {d : Nat} (small : d < 10) : (digit d).isDigit := by
  simp only [CodePoint.isDigit, toNat_digit small, Bool.and_eq_true, decide_eq_true_eq]
  omega

theorem digitsOf_append (bound n : Nat) (later : Text) : digitsOf bound n later = digitsOf bound n [] ++ later := by
  induction bound generalizing n later with
  | zero => rfl
  | succ bound ih =>
    unfold digitsOf
    split
    · rfl
    · rw [ih, ih _ [_], List.append_assoc, List.singleton_append]

theorem digitsOf_of_lt (enough : n < bound) : digitsOf bound n [] = ofNat n := by
  induction n using Nat.strongRecOn generalizing bound with
  | _ n ih =>
    cases bound with
    | zero => omega
    | succ bound =>
      unfold ofNat digitsOf
      split
      · rfl
      · rw [digitsOf_append bound, digitsOf_append n, ih (n / 10) (by omega) (by omega), ih (n / 10) (by omega) (by omega)]

theorem ofNat_of_lt (small : n < 10) : ofNat n = [digit n] := by
  unfold ofNat digitsOf
  rw [if_pos small]

theorem ofNat_of_le (large : 10 ≤ n) : ofNat n = ofNat (n / 10) ++ [digit (n % 10)] := by
  have unfolded : ofNat n = digitsOf n (n / 10) [digit (n % 10)] := by
    unfold ofNat
    rw [digitsOf, if_neg (by omega)]
  rw [unfolded, digitsOf_append, digitsOf_of_lt (by omega)]

theorem isDigit_of_mem_ofNat {c : CodePoint} (member : c ∈ ofNat n) : c.isDigit := by
  induction n using Nat.strongRecOn with
  | _ n ih =>
    by_cases small : n < 10
    · rw [ofNat_of_lt small, List.mem_singleton] at member
      rw [member]
      exact isDigit_digit small
    · rw [ofNat_of_le (by omega), List.mem_append, List.mem_singleton] at member
      rcases member with before | last
      · exact ih (n / 10) (by omega) before
      · rw [last]
        exact isDigit_digit (Nat.mod_lt n (by omega))

theorem digitsValue_append (digits : Text) (c : CodePoint) :
    digitsValue (digits ++ [c]) = digitsValue digits * 10 + (c.toNat - 0x30) := by
  simp [digitsValue, List.foldl_append]

theorem digitsValue_ofNat (n : Nat) : digitsValue (ofNat n) = n := by
  induction n using Nat.strongRecOn with
  | _ n ih =>
    by_cases small : n < 10
    · rw [ofNat_of_lt small]
      simp only [digitsValue, List.foldl_cons, List.foldl_nil, toNat_digit small]
      omega
    · rw [ofNat_of_le (by omega), digitsValue_append, ih (n / 10) (by omega),
        toNat_digit (Nat.mod_lt n (by omega))]
      omega

theorem head_ofNat (n : Nat) : ∃ d rest, ofNat n = digit d :: rest ∧ d < 10 ∧ (d = 0 → n = 0 ∧ rest = []) := by
  induction n using Nat.strongRecOn with
  | _ n ih =>
    by_cases small : n < 10
    · exact ⟨n, [], ofNat_of_lt small, small, fun zero => ⟨zero, rfl⟩⟩
    · obtain ⟨d, rest, same, bound, first⟩ := ih (n / 10) (by omega)
      refine ⟨d, rest ++ [digit (n % 10)], by rw [ofNat_of_le (by omega), same]; rfl, bound, fun zero => ?_⟩
      have none := (first zero).1
      omega

theorem length_ofNat {count : Nat} (positive : 0 < count) (small : n < 10 ^ count) : (ofNat n).length ≤ count := by
  induction count generalizing n with
  | zero => omega
  | succ count ih =>
    by_cases single : n < 10
    · rw [ofNat_of_lt single, List.length_singleton]
      omega
    · rw [ofNat_of_le (by omega), List.length_append, List.length_singleton]
      have some : 0 < count := by
        rcases Nat.eq_zero_or_pos count with rfl | some
        · omega
        · exact some
      have shorter := ih some (n := n / 10) (by rw [Nat.pow_succ] at small; omega)
      omega

theorem digitsValue_lt (each : ∀ c ∈ digits, c.isDigit) : digitsValue digits < 10 ^ digits.length := by
  induction digits using List.reverseRec with
  | nil => decide
  | append_singleton before c ih =>
    have earlier := ih fun one member => each one (List.mem_append_left _ member)
    have last := each c (by simp)
    simp only [CodePoint.isDigit, Bool.and_eq_true, decide_eq_true_eq] at last
    rw [digitsValue_append, List.length_append, List.length_singleton, Nat.pow_succ]
    omega

theorem toNat_hexDigit {d : Nat} (small : d < 16) : (hexDigit d).toNat = if d < 10 then 0x30 + d else 0x57 + d := by
  rw [hexDigit, CodePoint.toNat_ofNat]
  split <;> omega

theorem hexDigit?_hexDigit {d : Nat} (small : d < 16) : (hexDigit d).hexDigit? = some d := by
  simp only [CodePoint.hexDigit?, toNat_hexDigit small]
  by_cases low : d < 10
  · rw [if_pos low, if_pos (by omega)]
    exact congrArg some (by omega)
  · rw [if_neg low, if_neg (by omega), if_pos (by omega)]
    exact congrArg some (by omega)

theorem hex_four (n : Nat) : hex 4 n =
    [hexDigit (n / 16 / 16 / 16 % 16), hexDigit (n / 16 / 16 % 16), hexDigit (n / 16 % 16), hexDigit (n % 16)] := rfl

structure IsDigits (text : Text) : Prop where
  present : text ≠ []
  digits : ∀ c ∈ text, c.isDigit

-- The digits of a whole number, where a zero in front stands alone.
structure IsWhole (text : Text) : Prop extends IsDigits text where
  leading : text.head? = some (.char '0') → text = [.char '0']

theorem IsDigits.append (one : IsDigits text) (each : ∀ c ∈ other, c.isDigit) : IsDigits (text ++ other) where
  present := by simp [one.present]
  digits c member := (List.mem_append.mp member).elim (one.digits c) (each c)

theorem isDigit_zeros : ∀ c ∈ List.replicate n (.char '0'), CodePoint.isDigit c := by
  intro c member
  rw [(List.mem_replicate.mp member).2]
  decide

theorem isDigits_ofNat (n : Nat) : IsDigits (ofNat n) where
  present := by
    obtain ⟨d, rest, same, -⟩ := head_ofNat n
    simp [same]
  digits _ := isDigit_of_mem_ofNat

theorem isDigits_padded (width n : Nat) : IsDigits (padded width n) where
  present := by simp [padded, (isDigits_ofNat n).present]
  digits c member := (List.mem_append.mp member).elim (isDigit_zeros c) isDigit_of_mem_ofNat

theorem head_ofNat_ne_zero (positive : 0 < n) : (ofNat n).head? ≠ some (.char '0') := by
  obtain ⟨d, rest, same, small, first⟩ := head_ofNat n
  intro zero
  rw [same, List.head?_cons, Option.some.injEq] at zero
  have number := toNat_digit small
  rw [zero] at number
  change 0x30 = 0x30 + d at number
  have none := (first (by omega)).1
  omega

theorem isWhole_ofNat (n : Nat) : IsWhole (ofNat n) where
  toIsDigits := isDigits_ofNat n
  leading zero := by
    rcases Nat.eq_zero_or_pos n with rfl | positive
    · rfl
    · exact absurd zero (head_ofNat_ne_zero positive)

end ChangeCapture.Text
