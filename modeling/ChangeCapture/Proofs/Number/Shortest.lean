import ChangeCapture.Number.Shortest
import ChangeCapture.Proofs.Text.Decimal
import Mathlib.Data.List.DropRight

namespace ChangeCapture

namespace Text

def IsPlaces (text : Text) : Prop := text = [] ∨ ∃ digits, IsDigits digits ∧ text = .char '.' :: digits

def IsPower (text : Text) : Prop :=
  text = [] ∨ ∃ sign digits, (sign = .char '-' ∨ sign = .char '+') ∧ IsDigits digits ∧ text = .char 'e' :: sign :: digits

def minus (negative : Bool) : Text := if negative then "-" else ""

structure IsDecimal (whole places power : Text) : Prop where
  ofWhole : IsWhole whole
  ofPlaces : IsPlaces places
  ofPower : IsPower power
  marked : places ≠ [] ∨ power ≠ []

theorem IsDecimal.fraction {whole digits : Text} (ofWhole : IsWhole whole) (ofDigits : IsDigits digits) :
    IsDecimal whole (.char '.' :: digits) [] :=
  ⟨ofWhole, .inr ⟨digits, ofDigits, rfl⟩, .inl rfl, .inl (List.cons_ne_nil _ _)⟩

end Text

namespace Binary64

open Text (IsDigits IsWhole IsPlaces IsPower IsDecimal)

variable {span : Interval} {places : Int} {count mantissa : Nat} {exponent : Int} {short : ShortDecimal}

-- An interval beside the points d · 10^unit of a grid, as integers over one denominator.

def Interval.top (span : Interval) (unit : Int) : Nat :=
  (if 0 ≤ span.exponent then Nat.pow 2 span.exponent.toNat else 1) * (if 0 ≤ unit then 1 else Nat.pow 10 (-unit).toNat)

def Interval.bottom (span : Interval) (unit : Int) : Nat :=
  (if 0 ≤ span.exponent then 1 else Nat.pow 2 (-span.exponent).toNat) * (if 0 ≤ unit then Nat.pow 10 unit.toNat else 1)

def Interval.Contains (span : Interval) (unit : Int) (d : Nat) : Prop :=
  if span.closed then span.low * span.top unit ≤ d * span.bottom unit ∧ d * span.bottom unit ≤ span.high * span.top unit
  else span.low * span.top unit < d * span.bottom unit ∧ d * span.bottom unit < span.high * span.top unit

theorem Interval.top_pos (span : Interval) (unit : Int) : 0 < span.top unit := by
  refine Nat.mul_pos ?_ ?_
  · split
    · exact Nat.pow_pos (by decide)
    · decide
  · split
    · decide
    · exact Nat.pow_pos (by decide)

-- The point that is found reads back as the double.
theorem contains_of_onGrid (found : onGrid span places count = some short) : span.Contains (places - count) short.digits := by
  unfold onGrid at found
  extract_lets unit two half ten tenth top bottom floor inside made at found
  have ofInside : ∀ d, inside d = true → made d = short → span.Contains unit short.digits := by
    rintro d within rfl
    change if span.closed then span.low * top ≤ d * bottom ∧ d * bottom ≤ span.high * top
      else span.low * top < d * bottom ∧ d * bottom < span.high * top
    dsimp only [inside] at within
    split at within
    · rw [if_pos ‹_›]
      simpa only [Bool.and_eq_true, decide_eq_true_eq] using within
    · rw [if_neg ‹_›]
      simpa only [Bool.and_eq_true, decide_eq_true_eq] using within
  have ofNext : inside floor = true → inside (floor + 1) = true → ∀ d, d = floor ∨ d = floor + 1 →
      some (made d) = some short → span.Contains unit short.digits := by
    rintro here next d (rfl | rfl) same
    · exact ofInside _ here (Option.some.inj same)
    · exact ofInside _ next (Option.some.inj same)
  split at found
  · cases found
  · exact ofInside floor ‹_› (Option.some.inj found)
  · exact ofInside (floor + 1) ‹_› (Option.some.inj found)
  · rename_i here next
    split at found
    · exact ofNext here next _ (.inl rfl) found
    · split at found
      · exact ofNext here next _ (.inr rfl) found
      · split at found
        · exact ofNext here next _ (.inl rfl) found
        · exact ofNext here next _ (.inr rfl) found

theorem pos_of_contains {unit : Int} {d : Nat} (positive : 0 < span.low) (contains : span.Contains unit d) : 0 < d := by
  have low : 0 < span.low * span.top unit := Nat.mul_pos positive (span.top_pos unit)
  have above : span.low * span.top unit ≤ d * span.bottom unit := by
    unfold Interval.Contains at contains
    split at contains
    · exact contains.1
    · exact contains.1.le
  exact Nat.pos_of_mul_pos_right (low.trans_le above)

theorem shortest_cases (mantissa : Nat) (exponent : Int) : shortest mantissa exponent = ⟨0, 1, 0⟩ ∨
    ∃ places count, onGrid (interval mantissa exponent) places count = some (shortest mantissa exponent) := by
  unfold shortest
  dsimp only
  generalize decimalPlaces _ _ = places
  cases found : (List.range 17).findSome? fun k => onGrid (interval mantissa exponent) places (k + 1) with
  | none => exact .inl rfl
  | some short =>
    obtain ⟨k, -, made⟩ := List.exists_of_findSome?_eq_some found
    exact .inr ⟨_, k + 1, made⟩

theorem exponent_of_shortest (positive : 0 < mantissa) (none : (shortest mantissa exponent).digits = 0) :
    (shortest mantissa exponent).exponent = 0 := by
  have low : 0 < (interval mantissa exponent).low := by
    unfold interval
    dsimp only
    split <;> omega
  rcases shortest_cases mantissa exponent with same | ⟨places, count, found⟩
  · rw [same]
  · have above := pos_of_contains low (contains_of_onGrid found)
    omega

theorem significantDigits_of_pos {short : ShortDecimal} (positive : 0 < short.digits) : ∃ first rest,
    (significantDigits short).1 = first :: rest ∧ first ≠ .char '0' ∧ Text.IsDigits (first :: rest) := by
  have notZero := Text.head_ofNat_ne_zero positive
  obtain ⟨first, rest, same, -⟩ := Text.head_ofNat short.digits
  rw [same, List.head?_cons, ne_eq, Option.some.injEq] at notZero
  have all : ∀ c ∈ Text.ofNat short.digits, c.isDigit := fun c => Text.isDigit_of_mem_ofNat
  have shown : (Text.ofNat short.digits).rdropWhile (· = .char '0') <+: Text.ofNat short.digits :=
    List.rdropWhile_prefix _ _
  have present : (Text.ofNat short.digits).rdropWhile (· = .char '0') ≠ [] := by
    intro none
    rw [List.rdropWhile_eq_nil_iff, same] at none
    exact notZero (by simpa using none _ (List.mem_cons_self ..))
  have made : (significantDigits short).1 = (Text.ofNat short.digits).rdropWhile (· = .char '0') := if_neg present
  obtain ⟨head, tail, kept⟩ := List.exists_cons_of_ne_nil present
  rw [kept] at made shown
  refine ⟨head, tail, made, ?_, List.cons_ne_nil _ _, fun c member => all c (shown.subset member)⟩
  rw [same, List.cons_prefix_cons] at shown
  exact shown.1 ▸ notZero

theorem significantDigits_of_zero {short : ShortDecimal} (zero : short.digits = 0) :
    significantDigits short = (("0" : Text), short.exponent) := by
  have spelled : Text.ofNat 0 = ("0" : Text) := rfl
  unfold significantDigits
  dsimp only
  rw [zero, spelled]
  refine Prod.ext rfl ?_
  change short.exponent + 1 - 1 = short.exponent
  omega

def scientific (mantissa : Nat) (exponent : Int) : Text × Int :=
  if mantissa = 0 then ("0", 0) else significantDigits (shortest mantissa exponent)

def positional (digits : Text) (power : Int) : Text :=
  let zeros (n : Nat) : Text := List.replicate n (.char '0')
  if power < 0 then "0." ++ zeros (-power - 1).toNat ++ digits
  else
    let whole := power.toNat + 1
    if digits.length ≤ whole then digits ++ zeros (whole - digits.length) ++ ".0"
    else digits.take whole ++ "." ++ digits.drop whole

def exponential (width : Nat) (digits : Text) (power : Int) : Text :=
  let tail : Text := if digits.length = 1 then "" else "." ++ digits.drop 1
  let sign : Text := if power < 0 then "-" else "+"
  digits.take 1 ++ tail ++ "e" ++ sign ++ Text.padded width power.natAbs

def spelled (layout : DoubleLayout) (digits : Text) (power : Int) : Text :=
  if layout.leastPositional ≤ power ∧ power < layout.belowPositional then positional digits power
  else exponential layout.exponentWidth digits power

theorem write_finite (layout : DoubleLayout) (negative : Bool) (mantissa : Nat) (exponent : Int) :
    write layout (.finite negative mantissa exponent) =
      Text.minus negative ++ spelled layout (scientific mantissa exponent).1 (scientific mantissa exponent).2 := by
  cases negative <;> rfl

theorem isWhole_scientific (mantissa : Nat) (exponent : Int) : IsWhole (scientific mantissa exponent).1 ∧
    ((scientific mantissa exponent).1.head? = some (.char '0') → (scientific mantissa exponent).2 = 0) := by
  have zero : IsWhole ("0" : Text) := Text.isWhole_ofNat 0
  unfold scientific
  split
  · exact ⟨zero, fun _ => rfl⟩
  · rename_i positive
    rcases Nat.eq_zero_or_pos (shortest mantissa exponent).digits with none | some
    · rw [significantDigits_of_zero none]
      exact ⟨zero, fun _ => exponent_of_shortest (Nat.pos_of_ne_zero positive) none⟩
    · obtain ⟨first, rest, same, notZero, digits⟩ := significantDigits_of_pos some
      have differs : (first :: rest).head? ≠ Option.some (.char '0') := by simpa using notZero
      rw [same]
      exact ⟨⟨digits, fun equal => absurd equal differs⟩, fun equal => absurd equal differs⟩

theorem decimal_of_positional {digits : Text} {power : Int} (ofDigits : IsWhole digits)
    (alone : digits.head? = some (.char '0') → power = 0) :
    ∃ whole places, IsDecimal whole places [] ∧ positional digits power = whole ++ places := by
  unfold positional
  dsimp only
  split
  · refine ⟨"0", .char '.' :: (List.replicate (-power - 1).toNat (.char '0') ++ digits), ?_, by simp [Text.ofString]⟩
    refine .fraction (Text.isWhole_ofNat 0) ⟨by simp [ofDigits.present], fun c member => ?_⟩
    exact (List.mem_append.mp member).elim (Text.isDigit_zeros c) (ofDigits.digits c)
  · split
    · refine ⟨digits ++ List.replicate (power.toNat + 1 - digits.length) (.char '0'), ".0", ?_, rfl⟩
      refine .fraction ⟨ofDigits.toIsDigits.append Text.isDigit_zeros, fun front => ?_⟩ (Text.isDigits_ofNat 0)
      have first : digits.head? = some (.char '0') := by rwa [List.head?_append_of_ne_nil _ ofDigits.present] at front
      rw [ofDigits.leading first, alone first]
      rfl
    · rename_i longer
      refine ⟨digits.take (power.toNat + 1), .char '.' :: digits.drop (power.toNat + 1), ?_, by simp [Text.ofString]⟩
      refine .fraction ⟨⟨?_, fun c member => ofDigits.digits c (List.mem_of_mem_take member)⟩, fun front => ?_⟩
        ⟨by rw [ne_eq, List.drop_eq_nil_iff]; omega, fun c member => ofDigits.digits c (List.mem_of_mem_drop member)⟩
      · simp [ofDigits.present]
      · have single := congrArg List.length (ofDigits.leading (by simpa [List.head?_take] using front))
        rw [List.length_singleton] at single
        omega

theorem decimal_of_exponential {digits : Text} (ofDigits : IsDigits digits) (width : Nat) (power : Int) :
    ∃ whole places scale, IsDecimal whole places scale ∧ exponential width digits power = whole ++ places ++ scale := by
  obtain ⟨first, rest, rfl⟩ := List.exists_cons_of_ne_nil ofDigits.present
  have ofFirst : IsWhole [first] := {
    present := List.cons_ne_nil _ _
    digits := fun c member => ofDigits.digits c (List.mem_singleton.mp member ▸ List.mem_cons_self ..)
    leading := fun front => by rw [Option.some.inj front] }
  refine ⟨[first], if (first :: rest).length = 1 then "" else .char '.' :: rest,
    .char 'e' :: (if power < 0 then .char '-' else .char '+') :: Text.padded width power.natAbs, ?_, ?_⟩
  · refine ⟨ofFirst, ?_, .inr ⟨_, _, ?_, Text.isDigits_padded _ _, rfl⟩, .inr (List.cons_ne_nil _ _)⟩
    · split
      · exact .inl rfl
      · rename_i more
        refine .inr ⟨rest, ⟨fun none => more (by simp [none]), fun c member => ?_⟩, rfl⟩
        exact ofDigits.digits c (List.mem_cons_of_mem _ member)
    · split <;> simp
  · unfold exponential
    dsimp only
    split <;> split <;> simp [Text.ofString]

-- Every finite double is spelled as whole digits with a fraction, an exponent or both.
theorem decimal_of_write (layout : DoubleLayout) (negative : Bool) (mantissa : Nat) (exponent : Int) :
    ∃ whole places scale, IsDecimal whole places scale ∧
      write layout (.finite negative mantissa exponent) = Text.minus negative ++ (whole ++ places ++ scale) := by
  obtain ⟨ofDigits, alone⟩ := isWhole_scientific mantissa exponent
  rw [write_finite, spelled]
  split
  · obtain ⟨whole, places, decimal, same⟩ := decimal_of_positional ofDigits alone
    exact ⟨whole, places, [], decimal, by rw [same, List.append_nil]⟩
  · obtain ⟨whole, places, scale, decimal, same⟩ := decimal_of_exponential ofDigits.toIsDigits layout.exponentWidth _
    exact ⟨whole, places, scale, decimal, by rw [same]⟩

end Binary64

end ChangeCapture
