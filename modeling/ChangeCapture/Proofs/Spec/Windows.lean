import ChangeCapture.Proofs.Outcome
import ChangeCapture.Proofs.Spec.Accepted
import ChangeCapture.Proofs.Spec.Token
import ChangeCapture.Proofs.Text.Decimal

namespace ChangeCapture

namespace Integer

variable {c : CodePoint} {digits rest text : Text}

theorem digitIn?_ten : (digitIn? 10 c).isSome = c.isDigit := by
  unfold digitIn? CodePoint.hexDigit? CodePoint.isDigit
  grind

theorem valueIn_ten (each : ∀ c ∈ digits, c.isDigit) : valueIn 10 digits = Text.digitsValue digits := by
  refine List.foldl_ext _ _ _ fun value c member => ?_
  have digit := each c member
  simp only [CodePoint.isDigit, Bool.and_eq_true, decide_eq_true_eq] at digit
  simp [CodePoint.hexDigit?, digit]

-- Of the ASCII code points only the digits are read as digits, and they as themselves.
theorem decimal?_of_ascii (ascii : c.isAscii) : c.decimal? = if c.isDigit then some (c.toNat - 0x30) else none := by
  have small := CodePoint.isAscii_iff.mp ascii
  unfold CodePoint.decimal?
  split
  · rename_i digit
    simp only [CodePoint.isDigit, Bool.and_eq_true, decide_eq_true_eq] at digit
    have first : (decide (0x30 ≤ c.toNat) && decide (c.toNat < 0x30 + 10)) = true := by
      simp only [Bool.and_eq_true, decide_eq_true_eq]
      omega
    simp [decimalZeros, first]
  · rename_i other
    have starts : ∀ start ∈ decimalZeros, start = 0x30 ∨ 0x80 ≤ start := by decide
    have none : decimalZeros.find? (fun start => start ≤ c.toNat && c.toNat < start + 10) = none := by
      refine List.find?_eq_none.mpr fun start member found => other ?_
      simp only [CodePoint.isDigit, Bool.and_eq_true, decide_eq_true_eq] at found ⊢
      rcases starts start member with rfl | large
      · omega
      · omega
    rw [none, Option.map_none]

theorem numeral_of_nameParts (parts : ∀ c ∈ text, Identifier.isNamePart c) : text.numeral = text := by
  have solid : ∀ c ∈ text, isNumeralBlank c = false := by
    intro c member
    simp [isNumeralBlank, Identifier.not_isBlank_of_isNamePart (parts c member)]
  have kept : ∀ text : Text, (∀ c ∈ text, isNumeralBlank c = false) → text.dropWhile isNumeralBlank = text := by
    intro text solid
    cases text with
    | nil => rfl
    | cons c rest => simp [solid c (List.mem_cons_self ..)]
  unfold Text.numeral
  dsimp only
  generalize same : text.map _ = digits
  have unchanged : digits = text := by
    rw [← same]
    refine (List.map_congr_left fun c member => ?_).trans (List.map_id' text)
    rw [decimal?_of_ascii (Identifier.ascii_of_isNamePart (parts c member))]
    by_cases digit : c.isDigit
    · have range := digit
      simp only [CodePoint.isDigit, Bool.and_eq_true, decide_eq_true_eq] at range
      simp [digit, Nat.add_sub_cancel' range.1]
    · simp [digit]
  rw [unchanged, kept text solid, kept text.reverse (by simpa using solid), List.reverse_reverse]

theorem read_ten (present : digits ≠ []) (each : ∀ c ∈ digits, c.isDigit) (parts : ∀ c ∈ rest, Identifier.isNamePart c)
    (stop : ∀ c ∈ rest.head?, c.isDigit = false) : read 10 (digits ++ rest) =
      if digitLimit < digits.length then .error (.long digits.length)
      else if rest.isEmpty then .ok (Text.digitsValue digits) else .error (.invalid 10 (digits ++ rest)) := by
  have whole : (digits ++ rest).numeral = digits ++ rest := by
    refine numeral_of_nameParts fun c member => ?_
    rcases List.mem_append.mp member with inside | behind
    · simp [Identifier.isNamePart, each c inside]
    · exact parts c behind
  have split : (digits ++ rest).span (fun c => (digitIn? 10 c).isSome) = (digits, rest) := by
    have after : rest.takeWhile CodePoint.isDigit = [] ∧ rest.dropWhile CodePoint.isDigit = rest := by
      cases rest with
      | nil => exact ⟨rfl, rfl⟩
      | cons c rest => simp [stop c rfl]
    simp only [digitIn?_ten, List.span_eq_takeWhile_dropWhile]
    rw [List.takeWhile_append_of_pos each, List.dropWhile_append_of_pos each, after.1, after.2, List.append_nil]
  obtain ⟨first, later, rfl⟩ := List.exists_cons_of_ne_nil present
  have minus : first ≠ .char '-' := by
    rintro rfl
    exact absurd (each _ (List.mem_cons_self ..)) (by decide)
  have plus : first ≠ .char '+' := by
    rintro rfl
    exact absurd (each _ (List.mem_cons_self ..)) (by decide)
  have marker : ∀ text, withoutMarker 10 text = text := by
    intro text
    unfold withoutMarker
    split
    · rename_i known
      cases known
    · rfl
  simp only [List.cons_append] at whole split ⊢
  simp only [read, whole, minus, plus, if_false, marker, split, valueIn_ten each, true_and, List.isEmpty_cons, Bool.false_or]
  cases rest <;> simp

end Integer

namespace Window

variable {window : Text}

-- A window whose length can be told: it ends with its unit and not with a line feed, and
-- it has no more digits than an integer may have.
def Measurable (window : Text) : Prop := .char '\n' ∉ window ∧ window.length ≤ digitLimit + 1

instance : DecidablePred Measurable := fun _ => inferInstanceAs (Decidable (_ ∧ _))

theorem token_of_accepts (accepted : accepts window) : ∃ digits, digits ≠ [] ∧ (∀ c ∈ digits, c.isDigit) ∧
    (window = digits ++ [.char 'm'] ∨ window = digits ++ [.char 'm'] ++ [.char '\n']) := by
  obtain ⟨digits, same, present, each⟩ := isToken_iff.mp accepted
  refine ⟨digits, present, each, ?_⟩
  rw [← same]
  exact Text.withoutFinalBreak_cases window

theorem measurable_token_iff {digits : Text} (each : ∀ c ∈ digits, c.isDigit) :
    Measurable (digits ++ [.char 'm']) ↔ digits.length ≤ digitLimit := by
  have oneLine : (.char '\n' : CodePoint) ∉ digits := fun member => absurd (each _ member) (by decide)
  simp [Measurable, oneLine]

theorem exists_minutes_iff (accepted : accepts window) : (∃ length, minutes window = .ok length) ↔ Measurable window := by
  obtain ⟨digits, present, each, rfl | rfl⟩ := token_of_accepts accepted
  · have nothing : ∀ c ∈ ([] : Text), Identifier.isNamePart c := by simp
    have read := Integer.read_ten present each nothing (by simp)
    rw [measurable_token_iff each, minutes, List.dropLast_concat, ← List.append_nil digits, read, List.append_nil]
    split <;> simp <;> omega
  · have unit : ∀ c ∈ ([.char 'm'] : Text), Identifier.isNamePart c := by decide
    have read := Integer.read_ten present each unit (by decide)
    have broken : ¬ Measurable (digits ++ [.char 'm'] ++ [.char '\n']) := fun measurable => measurable.1 (by simp)
    rw [minutes, List.dropLast_concat, read]
    simp only [broken, iff_false]
    split <;> simp

end Window

namespace Spec

variable {spec : Spec} {window : Text}

def HasDefault (spec : Spec) : Prop :=
  spec.windows.default.isSome ∨ ∀ window ∈ spec.windows.options, Window.Measurable window

instance : DecidablePred HasDefault := fun _ => inferInstanceAs (Decidable (_ ∨ _))

theorem defaultWindow_of_pinned (valid : spec.Valid) (pinned : spec.windows.default = some window) :
    spec.defaultWindow = .ok window := by
  have accepted := valid.tokens window (valid.default window pinned)
  have present : window ≠ [] := by
    rintro rfl
    cases accepted
  simp [defaultWindow, pinned, present]

theorem exists_shortest_iff : (∃ window, defaultWindow.shortest spec = .ok window) ↔
    ∀ window ∈ spec.windows.options, ∃ length, Window.minutes window = .ok length := by
  have measured : ∀ window : Text, (∃ result, (do
      let minutes ← Window.minutes window
      pure (minutes, window) : Except IntegerFault (Int × Text)) = .ok result) ↔
        ∃ length, Window.minutes window = .ok length := by
    intro window
    simp only [bind_eq_ok_iff]
    exact ⟨fun ⟨_, length, read, _⟩ => ⟨length, read⟩, fun ⟨length, read⟩ => ⟨_, length, read, rfl⟩⟩
  rw [← forall₂_congr fun window _ => measured window, ← exists_mapM_iff]
  constructor
  · intro held
    obtain ⟨window, found⟩ := held
    obtain ⟨results, read, -⟩ := bind_eq_ok_iff.mp found
    exact ⟨results, read⟩
  · intro held
    obtain ⟨results, read⟩ := held
    simp only [defaultWindow.shortest, bind_eq_ok_iff]
    cases results with
    | nil => exact ⟨[], [], read, rfl⟩
    | cons first rest => exact ⟨_, first :: rest, read, rfl⟩

theorem foldl_shorter_mem (rest : List (Int × Text)) (first : Int × Text) :
    rest.foldl (fun best next => if defaultWindow.shorter next best then next else best) first ∈ first :: rest := by
  induction rest generalizing first with
  | nil => simp
  | cons next rest ih =>
    have either : (if defaultWindow.shorter next first then next else first) ∈ [first, next] := by
      split <;> simp
    have both : [first, next] ⊆ first :: next :: rest := by simp
    rw [List.foldl_cons]
    rcases List.mem_cons.mp (ih (if defaultWindow.shorter next first then next else first)) with same | later
    · rw [same]
      exact both either
    · simp [later]

theorem mem_of_shortest (present : spec.windows.options ≠ []) (found : defaultWindow.shortest spec = .ok window) :
    window ∈ spec.windows.options := by
  obtain ⟨measured, read, chosen⟩ := bind_eq_ok_iff.mp found
  have names : measured.map Prod.snd = spec.windows.options := by
    refine (List.forall₂_eq_eq_eq ▸ List.forall₂_map_right_iff.mpr ((mapM_eq_ok_iff.mp read).imp ?_) :
      spec.windows.options = measured.map Prod.snd).symm
    intro window result made
    obtain ⟨length, -, same⟩ := bind_eq_ok_iff.mp made
    cases same
    rfl
  cases measured with
  | nil => exact absurd names.symm present
  | cons first rest =>
    cases chosen
    exact names ▸ List.mem_map_of_mem (foldl_shorter_mem rest first)

theorem exists_defaultWindow_iff (valid : spec.Valid) : (∃ window, spec.defaultWindow = .ok window) ↔ spec.HasDefault := by
  have each : (∀ window ∈ spec.windows.options, ∃ length, Window.minutes window = .ok length) ↔
      ∀ window ∈ spec.windows.options, Window.Measurable window :=
    forall₂_congr fun window member => Window.exists_minutes_iff (valid.tokens window member)
  cases pinned : spec.windows.default with
  | some window => simp [HasDefault, pinned, defaultWindow_of_pinned valid pinned]
  | none =>
    have shortest : spec.defaultWindow = defaultWindow.shortest spec := by simp [defaultWindow, pinned]
    simp [HasDefault, pinned, shortest, exists_shortest_iff, each]

theorem mem_of_defaultWindow (valid : spec.Valid) (found : spec.defaultWindow = .ok window) :
    window ∈ spec.windows.options := by
  cases pinned : spec.windows.default with
  | some other =>
    have same := defaultWindow_of_pinned valid pinned
    rw [found] at same
    cases same
    exact valid.default window pinned
  | none =>
    have shortest : spec.defaultWindow = defaultWindow.shortest spec := by simp [defaultWindow, pinned]
    exact mem_of_shortest valid.windows (shortest.symm.trans found)

end Spec

end ChangeCapture
