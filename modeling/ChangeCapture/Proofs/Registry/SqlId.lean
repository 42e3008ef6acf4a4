import ChangeCapture.Proofs.Spec.Token
import ChangeCapture.Registry.Basic
import Mathlib.Data.List.TakeDrop

namespace ChangeCapture.SqlId

variable {key table window : Text}

theorem ascii_of_isTablePart {c : CodePoint} (part : isTablePart c) : c.isAscii := by
  simp only [isTablePart, Bool.or_eq_true, decide_eq_true_eq] at part
  rcases part with (letter | digit) | rfl
  · exact CodePoint.ascii_of_isLetter (by simp [CodePoint.isLetter, letter])
  · exact CodePoint.ascii_of_isDigit digit
  · rfl

-- What a key has to look like to be decoded: the part for the table is in lower
-- case, and only one line feed may follow the window.
theorem parse?_eq_some_iff : parse? key = some (table, window) ↔
    ∃ (part : Text) (first : CodePoint) (later : Text), part = first :: later ∧ isTableStart first ∧
      part.all isTablePart ∧ table = part.upper ∧
      Window.isToken window ∧ key.withoutFinalBreak = start ++ part ++ .char '.' :: window := by
  unfold parse?
  constructor
  · intro decoded
    simp only [Option.bind_eq_bind, Option.bind_eq_some_iff, Text.afterPrefix?_eq_some_iff] at decoded
    obtain ⟨rest, same, decoded⟩ := decoded
    rw [List.span_eq_takeWhile_dropWhile] at decoded
    have joined : rest.takeWhile isTablePart ++ rest.dropWhile isTablePart = rest := List.takeWhile_append_dropWhile
    have parts : (rest.takeWhile isTablePart).all isTablePart := List.all_takeWhile
    generalize rest.takeWhile isTablePart = part at decoded joined parts
    generalize rest.dropWhile isTablePart = tail at decoded joined
    dsimp only at decoded
    split at decoded
    · rename_i first later point after
      split at decoded
      · rename_i valid
        obtain ⟨letter, rfl, token⟩ := valid
        simp only [Option.some.injEq, Prod.mk.injEq] at decoded
        obtain ⟨rfl, rfl⟩ := decoded
        refine ⟨first :: later, first, later, rfl, letter, parts, rfl, token, ?_⟩
        rw [same, ← joined, List.append_assoc]
      · cases decoded
    · cases decoded
  · intro held
    obtain ⟨part, first, later, rfl, letter, parts, rfl, token, same⟩ := held
    have point : isTablePart (.char '.') = false := by decide
    have taken : List.span isTablePart (first :: later ++ .char '.' :: window) = (first :: later, .char '.' :: window) := by
      rw [List.span_eq_takeWhile_dropWhile, List.takeWhile_append_of_pos (List.all_eq_true.mp parts),
        List.dropWhile_append_of_pos (List.all_eq_true.mp parts)]
      simp [List.takeWhile, List.dropWhile, point]
    have prefixed : Text.afterPrefix? start key.withoutFinalBreak = some (first :: later ++ .char '.' :: window) :=
      Text.afterPrefix?_eq_some_iff.mpr (by rw [same, List.append_assoc])
    simp only [Option.bind_eq_bind, prefixed, Option.bind_some, taken]
    simp [letter, token]

theorem isShaped_of_parse? (decoded : parse? key = some (table, window)) : isShaped key := by
  obtain ⟨part, -, -, -, -, -, -, -, same⟩ := parse?_eq_some_iff.mp decoded
  rw [isShaped, Text.startsWith_iff]
  rcases Text.withoutFinalBreak_cases key with whole | broken
  · exact ⟨part ++ .char '.' :: window, by rw [whole, same, List.append_assoc]⟩
  · exact ⟨part ++ .char '.' :: window ++ [.char '\n'], by rw [broken, same]; simp⟩

theorem isShaped_make (table window : Text) : isShaped (make table window) := by
  rw [isShaped, Text.startsWith_iff]
  exact ⟨table.lower ++ "." ++ window, by simp [make, List.append_assoc]⟩

theorem lowerOne_of_isTablePart {c : CodePoint} (part : isTablePart c) : c.lowerOne = c := by
  apply CodePoint.toNat_injective
  rw [CodePoint.toNat_lowerOne (ascii_of_isTablePart part)]
  simp only [isTablePart, CodePoint.isLowerLetter, CodePoint.isDigit, Bool.or_eq_true, Bool.and_eq_true,
    decide_eq_true_eq] at part
  rcases part with (letter | digit) | rfl
  · split <;> omega
  · split <;> omega
  · rfl

theorem ascii_of_parts {part : Text} (parts : part.all isTablePart) : part.isAscii :=
  List.all_eq_true.mpr fun c member => ascii_of_isTablePart (List.all_eq_true.mp parts c member)

theorem lower_of_parts {part : Text} (parts : part.all isTablePart) : part.lower = part := by
  have small : part.map CodePoint.lowerOne = part.map id :=
    List.map_congr_left fun c member => lowerOne_of_isTablePart (List.all_eq_true.mp parts c member)
  rw [Text.lower_of_ascii (ascii_of_parts parts), small, List.map_id]

theorem withoutFinalBreak_of_parse? (decoded : parse? key = some (table, window)) :
    key.withoutFinalBreak = make table window := by
  obtain ⟨part, -, -, -, -, parts, rfl, -, same⟩ := parse?_eq_some_iff.mp decoded
  have point : Text.ofString "." = [.char '.'] := rfl
  rw [same, make, Text.lower_upper (ascii_of_parts parts), lower_of_parts parts, point]
  simp

theorem upper_of_parse? (decoded : parse? key = some (table, window)) : table.upper = table := by
  obtain ⟨part, -, -, -, -, parts, rfl, -, -⟩ := parse?_eq_some_iff.mp decoded
  exact Text.upper_upper (ascii_of_parts parts)

theorem isTableStart_lowerOne {c : CodePoint} (letter : Identifier.isNameStart c) : isTableStart c.lowerOne := by
  have ascii := Identifier.ascii_of_isNamePart (Identifier.isNamePart_of_isNameStart letter)
  simp only [Identifier.isNameStart, CodePoint.isLetter, CodePoint.isLowerLetter, CodePoint.isUpperLetter,
    Bool.or_eq_true, Bool.and_eq_true, decide_eq_true_eq] at letter
  simp only [isTableStart, CodePoint.isLowerLetter, CodePoint.toNat_lowerOne ascii, Bool.and_eq_true, decide_eq_true_eq]
  split <;> omega

theorem isTablePart_lowerOne {c : CodePoint} (part : Identifier.isNamePart c) : isTablePart c.lowerOne := by
  have ascii := Identifier.ascii_of_isNamePart part
  simp only [Identifier.isNamePart, Bool.or_eq_true, decide_eq_true_eq] at part
  rcases part with (letter | digit) | rfl
  · have lower : isTableStart c.lowerOne := isTableStart_lowerOne letter
    simp only [isTableStart] at lower
    simp [isTablePart, lower]
  · have digitPart : isTablePart c := by simp [isTablePart, digit]
    rwa [lowerOne_of_isTablePart digitPart]
  · decide

theorem point_not_mem_lower {name : Text} (accepted : Identifier.accepts name) : .char '.' ∉ name.lower := by
  rw [Text.lower_of_ascii (Identifier.ascii_of_accepts accepted)]
  intro member
  obtain ⟨c, present, same⟩ := List.mem_map.mp member
  have named : ∀ c ∈ name.withoutFinalBreak, c.lowerOne ≠ .char '.' := by
    intro c inside point
    have part := isTablePart_lowerOne (Identifier.parts_of_accepts accepted c inside)
    rw [point] at part
    exact absurd part (by decide)
  rcases Text.withoutFinalBreak_cases name with whole | broken
  · exact named c (whole ▸ present) same
  · rw [broken] at present
    rcases List.mem_append.mp present with inside | final
    · exact named c inside same
    · rw [List.mem_singleton.mp final] at same
      exact absurd same (by decide)

theorem takeWhile_point {part rest : Text} (clean : .char '.' ∉ part) :
    (part ++ .char '.' :: rest).takeWhile (· ≠ .char '.') = part := by
  rw [List.takeWhile_append_of_pos fun c member => by simpa using ne_of_mem_of_not_mem member clean]
  simp

-- Two keys are the same only for one window of one table, also where a final line
-- feed keeps them from being decoded.
theorem make_inj {name other window later : Text} (accepted : Identifier.accepts name) (accepts : Identifier.accepts other) :
    make name.upper window = make other.upper later ↔ name.upper = other.upper ∧ window = later := by
  have ascii := Identifier.ascii_of_accepts accepted
  have asciiOther := Identifier.ascii_of_accepts accepts
  have single : Text.ofString "." = [.char '.'] := rfl
  simp only [make, Text.lower_upper ascii, Text.lower_upper asciiOther, single, List.append_assoc, List.singleton_append,
    List.append_cancel_left_eq]
  constructor
  · intro same
    have lower := congrArg (List.takeWhile (· ≠ .char '.')) same
    rw [takeWhile_point (point_not_mem_lower accepted), takeWhile_point (point_not_mem_lower accepts)] at lower
    rw [lower, List.append_cancel_left_eq, List.cons.injEq] at same
    exact ⟨by rw [← Text.upper_lower ascii, lower, Text.upper_lower asciiOther], same.2⟩
  · intro same
    obtain ⟨upper, rfl⟩ := same
    rw [← Text.lower_upper ascii, upper, Text.lower_upper asciiOther]

theorem parse?_make {name window : Text} (accepted : Identifier.accepts name) (oneLine : .char '\n' ∉ name)
    (token : Window.accepts window) (oneLineWindow : .char '\n' ∉ window) :
    parse? (make name.upper window) = some (name.upper, window) := by
  have ascii := Identifier.ascii_of_accepts accepted
  have whole := Text.withoutFinalBreak_of_not_mem oneLine
  have isName := Identifier.isName_of_accepts accepted
  rw [whole] at isName
  obtain ⟨first, rest, rfl, letter, parts⟩ := Identifier.isName_iff.mp isName
  rw [Window.accepts, Text.withoutFinalBreak_of_not_mem oneLineWindow] at token
  refine parse?_eq_some_iff.mpr ⟨Text.lower (first :: rest), first.lowerOne, rest.map CodePoint.lowerOne, ?_,
    isTableStart_lowerOne letter, ?_, ?_, token, ?_⟩
  · exact Text.lower_of_ascii ascii
  · rw [Text.lower_of_ascii ascii, List.all_map]
    exact List.all_eq_true.mpr fun c member => isTablePart_lowerOne (List.all_eq_true.mp parts c member)
  · exact (Text.upper_lower ascii).symm
  · have lowered : Text.lower (Text.upper (first :: rest)) = Text.lower (first :: rest) := Text.lower_upper ascii
    have single : Text.ofString "." = [.char '.'] := rfl
    rw [make, lowered, Text.withoutFinalBreak_of_not_mem]
    · simp [single]
    · have clean : .char '\n' ∉ Text.lower (first :: rest) := by
        rw [Text.lower_of_ascii ascii]
        intro member
        obtain ⟨c, present, same⟩ := List.mem_map.mp member
        have part := isTablePart_lowerOne (List.all_eq_true.mp parts c present)
        rw [same] at part
        exact absurd part (by decide)
      have ofStart : (.char '\n' : CodePoint) ∉ start := by decide
      simp [single, ofStart, clean, oneLineWindow]

end ChangeCapture.SqlId
