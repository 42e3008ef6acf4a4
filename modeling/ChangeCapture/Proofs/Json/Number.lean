import ChangeCapture.Json.Reader
import ChangeCapture.Json.Writer
import ChangeCapture.Proofs.Number.Shortest
import Mathlib.Data.List.TakeDrop
import Mathlib.Data.List.TakeWhile

namespace ChangeCapture

-- The whole digits of a number end where its fraction or its exponent begins.
theorem Text.IsDecimal.stops {whole places power : Text} (decimal : IsDecimal whole places power) (rest : Text) :
    ∀ c ∈ (places ++ (power ++ rest)).head?, ¬c.isDigit := by
  obtain ⟨-, ofPlaces, ofPower, marked⟩ := decimal
  intro c head
  rcases ofPlaces with rfl | ⟨fraction, -, rfl⟩
  · rcases ofPower with rfl | ⟨sign, scale, -, -, rfl⟩
    · simp at marked
    · cases head
      decide
  · cases head
    decide

namespace Json

open Text (IsDigits IsWhole IsPlaces IsPower IsDecimal)

variable {digits whole places power rest : Text} {bound : Nat} {c : CodePoint} {negative : Bool}

-- What may stand behind a number without being taken for more of it.
def EndsNumber (rest : Text) : Prop := ∀ c ∈ rest.head?, ¬c.isDigit ∧ c ≠ '.' ∧ c ≠ 'e' ∧ c ≠ 'E'

theorem EndsNumber.stops (ended : EndsNumber rest) : ∀ c ∈ rest.head?, ¬c.isDigit := fun c head => (ended c head).1

theorem ne_of_isDigit {other : CodePoint} (digit : c.isDigit) (none : ¬other.isDigit) : c ≠ other := by
  intro same
  subst same
  exact none digit

theorem span_digits (each : ∀ c ∈ digits, c.isDigit) (stops : ∀ c ∈ rest.head?, ¬c.isDigit) :
    (digits ++ rest).span CodePoint.isDigit = (digits, rest) := by
  have none : rest.takeWhile CodePoint.isDigit = [] ∧ rest.dropWhile CodePoint.isDigit = rest := by
    cases rest with
    | nil => exact ⟨rfl, rfl⟩
    | cons c later => exact ⟨List.takeWhile_cons_of_neg (stops c rfl), List.dropWhile_cons_of_neg (stops c rfl)⟩
  rw [List.span_eq_takeWhile_dropWhile, List.takeWhile_append_of_pos each, List.dropWhile_append_of_pos each, none.1, none.2,
    List.append_nil]

theorem readFraction?_of_ends (ended : EndsNumber rest) : readFraction? rest = none := by
  cases rest with
  | nil => rfl
  | cons c more =>
    obtain ⟨-, point, -⟩ := ended c rfl
    simp only [readFraction?, point, if_false]

theorem readExponent?_of_ends (ended : EndsNumber rest) : readExponent? rest = none := by
  cases rest with
  | nil => rfl
  | cons c more =>
    obtain ⟨-, -, small, large⟩ := ended c rfl
    simp only [readExponent?, small, large, or_self, if_false]

theorem readFraction?_places (ofDigits : IsDigits digits) (stops : ∀ c ∈ rest.head?, ¬c.isDigit) :
    readFraction? (.char '.' :: (digits ++ rest)) = some (digits, rest) := by
  simp only [readFraction?, if_true, span_digits ofDigits.digits stops, List.isEmpty_iff, ofDigits.present, if_false]

theorem readExponent?_power {sign : CodePoint} (signed : sign = .char '-' ∨ sign = .char '+') (ofDigits : IsDigits digits)
    (stops : ∀ c ∈ rest.head?, ¬c.isDigit) : readExponent? (.char 'e' :: sign :: (digits ++ rest)) =
      some (if sign = .char '-' then -(Text.digitsValue digits : Int) else Text.digitsValue digits, rest) := by
  rcases signed with rfl | rfl
  · simp only [readExponent?, true_or, if_true, span_digits ofDigits.digits stops, List.isEmpty_iff, ofDigits.present, if_false]
  · simp only [readExponent?, true_or, if_true, CodePoint.char.injEq, Char.reduceEq, if_false,
      span_digits ofDigits.digits stops, List.isEmpty_iff, ofDigits.present, Bool.false_eq_true]

theorem readNumberTail_of_ends (short : whole.length ≤ digitLimit) (ended : EndsNumber rest) :
    readNumberTail negative whole rest =
      .ok (.int (if negative then -(Text.digitsValue whole : Int) else Text.digitsValue whole), rest) := by
  simp only [readNumberTail, readFraction?_of_ends ended, Option.map_none, Option.getD_none, readExponent?_of_ends ended,
    if_neg (Nat.not_lt.mpr short)]

theorem readNumberTail_of_decimal (negative : Bool) (decimal : IsDecimal whole places power) : ∃ value : Binary64,
    ∀ rest, EndsNumber rest → readNumberTail negative whole (places ++ (power ++ rest)) = .ok (.double value, rest) := by
  obtain ⟨-, ofPlaces, ofPower, marked⟩ := decimal
  let value (fraction : Text) (scale : Int) : Binary64 :=
    .ofDecimal negative (Text.digitsValue (whole ++ fraction)) (scale - fraction.length)
  let signed (sign : CodePoint) (scale : Text) : Int :=
    if sign = .char '-' then -(Text.digitsValue scale : Int) else Text.digitsValue scale
  rcases ofPlaces with rfl | ⟨fraction, ofFraction, rfl⟩
  · rcases ofPower with rfl | ⟨sign, scale, isSign, ofScale, rfl⟩
    · simp at marked
    · refine ⟨value [] (signed sign scale), fun rest ended => ?_⟩
      have none : readFraction? (.char 'e' :: sign :: (scale ++ rest)) = none := by
        simp only [readFraction?, CodePoint.char.injEq, Char.reduceEq, if_false]
      simp only [List.nil_append, List.cons_append, readNumberTail, none, Option.map_none, Option.getD_none,
        readExponent?_power isSign ofScale ended.stops]
      rfl
  · rcases ofPower with rfl | ⟨sign, scale, isSign, ofScale, rfl⟩
    · refine ⟨value fraction 0, fun rest ended => ?_⟩
      simp only [List.nil_append, List.cons_append, readNumberTail, readFraction?_places ofFraction ended.stops,
        Option.map_some, Option.getD_some, readExponent?_of_ends ended]
      rfl
    · refine ⟨value fraction (signed sign scale), fun rest ended => ?_⟩
      have letter : ∀ c ∈ (.char 'e' :: sign :: (scale ++ rest) : Text).head?, ¬c.isDigit := by
        intro c head
        cases head
        decide
      simp only [List.cons_append, readNumberTail, readFraction?_places ofFraction letter, Option.map_some, Option.getD_some,
        readExponent?_power isSign ofScale ended.stops]
      rfl

theorem readNumber_whole (negative : Bool) (start : Text) (ofWhole : IsWhole whole) (stops : ∀ c ∈ rest.head?, ¬c.isDigit) :
    readNumber negative start (whole ++ rest) = readNumberTail negative whole rest := by
  obtain ⟨first, more, rfl⟩ := List.exists_cons_of_ne_nil ofWhole.present
  rw [List.cons_append, readNumber]
  by_cases zero : first = '0'
  · subst zero
    obtain rfl : more = [] := (List.cons.inj (ofWhole.leading rfl)).2
    rw [if_pos rfl, List.nil_append]
  · rw [if_neg zero, if_pos (ofWhole.digits first (List.mem_cons_self ..)),
      span_digits (fun c member => ofWhole.digits c (List.mem_cons_of_mem _ member)) stops]

theorem readLiteral?_of_digit (rest : Text) (digit : c.isDigit) :
    readLiteral? (c :: rest) = none ∧ readLiteral? ('-' :: c :: rest) = none := by
  have apart : ∀ other : CodePoint, ¬other.isDigit → ¬other = c := fun other none same => ne_of_isDigit digit none same.symm
  have n := apart 'n' (by decide)
  have t := apart 't' (by decide)
  have f := apart 'f' (by decide)
  have N := apart 'N' (by decide)
  have I := apart 'I' (by decide)
  have minus := apart '-' (by decide)
  constructor
  · simp [readLiteral?, literals, Text.ofString, Text.afterPrefix?, n, t, f, N, I, minus]
  · simp [readLiteral?, literals, Text.ofString, Text.afterPrefix?, I]

theorem readValue_whole (ofWhole : IsWhole whole) (stops : ∀ c ∈ rest.head?, ¬c.isDigit) (negative : Bool) :
    readValue (bound + 1) (Text.minus negative ++ (whole ++ rest)) = readNumberTail negative whole rest := by
  have read := fun start => readNumber_whole negative start ofWhole stops
  obtain ⟨first, more, rfl⟩ := List.exists_cons_of_ne_nil ofWhole.present
  have digit := ofWhole.digits first (List.mem_cons_self ..)
  obtain ⟨plain, signed⟩ := readLiteral?_of_digit (more ++ rest) digit
  rw [List.cons_append] at read ⊢
  cases negative with
  | false =>
    change readValue (bound + 1) (first :: (more ++ rest)) = _
    simp only [readValue, ne_of_isDigit digit (show ¬CodePoint.isDigit '"' by decide),
      ne_of_isDigit digit (show ¬CodePoint.isDigit '[' by decide),
      ne_of_isDigit digit (show ¬CodePoint.isDigit '\x7b' by decide),
      ne_of_isDigit digit (show ¬CodePoint.isDigit '-' by decide), if_false, plain]
    exact read _
  | true =>
    change readValue (bound + 1) (.char '-' :: first :: (more ++ rest)) = _
    simp only [readValue, CodePoint.char.injEq, Char.reduceEq, if_false, if_true, signed]
    exact read _

theorem readValue_ofInt {n : Int} (short : (Text.ofNat n.natAbs).length ≤ digitLimit) (ended : EndsNumber rest) :
    readValue (bound + 1) (Text.ofInt n ++ rest) = .ok (.int n, rest) := by
  have spelled : Text.ofInt n = Text.minus (n < 0) ++ Text.ofNat n.natAbs := by
    cases n with
    | ofNat n => rfl
    | negSucc n =>
      have negative : decide (Int.negSucc n < 0) = true := decide_eq_true (Int.negSucc_lt_zero n)
      rw [negative]
      rfl
  rw [spelled, List.append_assoc, readValue_whole (Text.isWhole_ofNat n.natAbs) ended.stops, readNumberTail_of_ends short ended,
    Text.digitsValue_ofNat]
  congr 4
  split <;> rename_i sign <;> rw [decide_eq_true_eq] at sign <;> omega

theorem readValue_of_literal {word : Text} {value : Json} (listed : readLiteral? (word ++ rest) = some (value, rest))
    (opens : ∃ c more, word = c :: more ∧ c ≠ '"' ∧ c ≠ '[' ∧ c ≠ '{') :
    readValue (bound + 1) (word ++ rest) = .ok (value, rest) := by
  obtain ⟨c, more, rfl, quote, bracket, brace⟩ := opens
  rw [List.cons_append] at listed ⊢
  simp only [readValue, quote, bracket, brace, if_false, listed]

theorem readLiteral?_nan : readLiteral? (("NaN" : Text) ++ rest) = some (.double .nan, rest) := by
  simp [readLiteral?, literals, Text.ofString, Text.afterPrefix?]

theorem readLiteral?_infinity (negative : Bool) :
    readLiteral? ((Binary64.infinite negative).write doubleLayout ++ rest) = some (.double (.infinite negative), rest) := by
  cases negative <;> simp [readLiteral?, literals, Text.ofString, Text.afterPrefix?, Binary64.write, doubleLayout]

theorem readValue_double (x : Binary64) : ∃ value : Binary64, ∀ bound rest, EndsNumber rest →
    readValue (bound + 1) (x.write doubleLayout ++ rest) = .ok (.double value, rest) := by
  cases x with
  | nan => exact ⟨.nan, fun bound rest _ => readValue_of_literal readLiteral?_nan ⟨_, _, rfl, by decide⟩⟩
  | infinite negative =>
    refine ⟨.infinite negative, fun bound rest _ => readValue_of_literal (readLiteral?_infinity negative) ?_⟩
    cases negative <;> exact ⟨_, _, rfl, by decide⟩
  | finite negative mantissa exponent =>
    obtain ⟨whole, places, power, decimal, same⟩ := Binary64.decimal_of_write doubleLayout negative mantissa exponent
    obtain ⟨value, read⟩ := readNumberTail_of_decimal negative decimal
    refine ⟨value, fun bound rest ended => ?_⟩
    have stops := decimal.stops rest
    rw [same, List.append_assoc, List.append_assoc, List.append_assoc, readValue_whole decimal.ofWhole stops negative,
      read rest ended]

end Json

end ChangeCapture
