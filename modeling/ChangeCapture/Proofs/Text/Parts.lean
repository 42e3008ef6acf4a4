import ChangeCapture.Proofs.Text.CodePoint
import Mathlib.Algebra.GroupWithZero.Nat

namespace ChangeCapture.Text

variable {start text rest : Text}

theorem afterPrefix?_eq_some_iff : afterPrefix? start text = some rest ↔ text = start ++ rest := by
  induction start generalizing text with
  | nil => simp [afterPrefix?]
  | cons a start ih =>
    cases text with
    | nil => simp [afterPrefix?]
    | cons b text =>
      by_cases same : a = b
      · simp [afterPrefix?, same, ih]
      · simp [afterPrefix?, same, Ne.symm same]

theorem startsWith_iff : startsWith text start ↔ ∃ rest, text = start ++ rest := by
  simp only [startsWith, Option.isSome_iff_exists, afterPrefix?_eq_some_iff]

theorem withoutFinalBreak_of_not_mem (clean : .char '\n' ∉ text) : text.withoutFinalBreak = text := by
  unfold withoutFinalBreak
  split
  · rename_i closed
    exact absurd (List.mem_of_getLast? closed) clean
  · rfl

theorem withoutFinalBreak_cases (text : Text) :
    text = text.withoutFinalBreak ∨ text = text.withoutFinalBreak ++ [.char '\n'] := by
  unfold withoutFinalBreak
  split
  · rename_i closed
    obtain ⟨before, rfl⟩ := List.getLast?_eq_some_iff.mp closed
    exact .inr (by simp)
  · exact .inl rfl

theorem withoutFinalBreak_append (present : rest ≠ []) : (text ++ rest).withoutFinalBreak = text ++ rest.withoutFinalBreak := by
  unfold withoutFinalBreak
  rw [List.getLast?_append_of_ne_nil text present, List.dropLast_append_of_ne_nil present]
  split <;> rfl

-- Two stretches without a mark that come before marks are told apart by what they are.
theorem append_eq_append_iff_of_marks {isMark : CodePoint → Bool} {word other rest tail : Text}
    (clean : ∀ c ∈ word, isMark c = false) (plain : ∀ c ∈ other, isMark c = false)
    (marked : rest.head?.any isMark) (closed : tail.head?.any isMark) :
    word ++ rest = other ++ tail ↔ word = other ∧ rest = tail := by
  refine ⟨fun same => ?_, by rintro ⟨rfl, rfl⟩; rfl⟩
  induction word generalizing other with
  | nil =>
    cases other with
    | nil => exact ⟨rfl, same⟩
    | cons d other =>
      have unmarked := plain d (List.mem_cons_self ..)
      rw [List.nil_append] at same
      simp [same, unmarked] at marked
  | cons c word ih =>
    have unmarked := clean c (List.mem_cons_self ..)
    cases other with
    | nil =>
      rw [List.nil_append] at same
      simp [← same, unmarked] at closed
    | cons d other =>
      obtain ⟨rfl, later⟩ := List.cons.inj same
      obtain ⟨rfl, rest⟩ := ih (fun c member => clean c (List.mem_cons_of_mem _ member))
        (fun c member => plain c (List.mem_cons_of_mem _ member)) later
      exact ⟨rfl, rest⟩

theorem joined_cons_cons (separator first second : Text) (words : List Text) :
    joined separator (first :: second :: words) = first ++ (separator ++ joined separator (second :: words)) := by
  rw [joined, List.append_assoc]
  exact List.cons_ne_nil second words

-- So many occurrences of a part come from a word, whatever follows it.
def Adds (part word : Text) (count : Nat) : Prop := ∀ rest, occurrences part (word ++ rest) = count + occurrences part rest

section Occurrences

variable {part word other separator : Text} {mark : CodePoint} {count more : Nat}

theorem Adds.occurrences (adds : Adds part word count) : occurrences part word = count := by
  have whole := adds []
  rwa [List.append_nil, Text.occurrences, Text.occurrences, occurrencesFrom, Nat.add_zero] at whole

theorem Adds.append (first : Adds part word count) (later : Adds part other more) : Adds part (word ++ other) (count + more) := by
  intro rest
  rw [List.append_assoc, first, later, Nat.add_assoc]

theorem adds_nil (part : Text) : Adds part [] 0 := fun _ => (Nat.zero_add _).symm

theorem adds_cons {c : CodePoint} (missed : ∀ rest, startsWith (c :: (word ++ rest)) part = false) (later : Adds part word count) :
    Adds part (c :: word) count := by
  intro rest
  have passed := later rest
  rw [List.cons_append, occurrences, occurrencesFrom, missed rest]
  exact passed

theorem adds_of_not_mem (absent : mark ∉ word) : Adds (mark :: part) word 0 := by
  induction word with
  | nil => exact adds_nil _
  | cons c word ih =>
    simp only [List.mem_cons, not_or] at absent
    exact adds_cons (fun rest => by simp [startsWith, afterPrefix?, absent.1]) (ih absent.2)

theorem occurrencesFrom_skipped (part word rest : Text) :
    occurrencesFrom part word.length (word ++ rest) = occurrencesFrom part 0 rest := by
  induction word with
  | nil => rfl
  | cons c word ih => exact ih

theorem adds_self (mark : CodePoint) (part : Text) : Adds (mark :: part) (mark :: part) 1 := by
  intro rest
  have whole : startsWith (mark :: (part ++ rest)) (mark :: part) := startsWith_iff.mpr ⟨rest, rfl⟩
  rw [List.cons_append, occurrences, occurrencesFrom, if_pos whole, List.length_cons, Nat.add_sub_cancel,
    occurrencesFrom_skipped, Nat.add_comm]
  rfl

theorem adds_joined {α : Type} {items : List α} {write : α → Text} {counts : α → Nat} (apart : Adds part separator 0)
    (each : ∀ item ∈ items, Adds part (write item) (counts item)) :
    Adds part (joined separator (items.map write)) (items.map counts).sum := by
  induction items with
  | nil => exact adds_nil part
  | cons first later ih =>
    obtain ⟨ofFirst, ofLater⟩ := List.forall_mem_cons.mp each
    cases later with
    | nil => exact ofFirst
    | cons second later =>
      have whole := (ofFirst.append apart).append (ih ofLater)
      rw [Nat.add_zero] at whole
      exact whole

end Occurrences

end ChangeCapture.Text
