import ChangeCapture.Proofs.Query.Rendering
import ChangeCapture.Proofs.Spec.Sample

namespace ChangeCapture

namespace Ordering

variable {key name word rest : Text} {c : CodePoint}

theorem not_sameLetter_quote (part : Identifier.isNamePart c) : CodePoint.sameLetter c (.char '"') = false := by
  cases same : CodePoint.sameLetter c (.char '"') with
  | false => rfl
  | true =>
    have capital := (CodePoint.sameLetter_iff (Identifier.ascii_of_isNamePart part) (by decide)).mp same
    have still : CodePoint.upperOne (.char '"') = .char '"' := by decide
    have again := Identifier.isNamePart_upperOne part
    rw [capital, still] at again
    cases again

theorem not_afterWord?_quote (ofKey : Identifier.isName key) : Text.afterWord? key (.char '"' :: rest) = none := by
  obtain ⟨first, later, rfl, letter, -⟩ := Identifier.isName_iff.mp ofKey
  simp [Text.afterWord?, not_sameLetter_quote (Identifier.isNamePart_of_isNameStart letter)]

theorem afterQuote_name (part : Identifier.isNamePart c) : Text.afterQuote (c :: rest) = [c :: rest] := by
  unfold Text.afterQuote
  split
  · rename_i same
    cases same
    cases part
  · rfl

theorem not_closing_name (part : Identifier.isNamePart c) : (Text.afterQuote (c :: rest)).any isClosing = false := by
  have stop : c ≠ .char ';' := by
    rintro rfl
    cases part
  simp [afterQuote_name part, isClosing, Identifier.not_isBlank_of_isNamePart part, stop]

-- A key that is taken from a name before the end of the clause, or before the quote that
-- closes it, is the whole of the name: what is left of a longer name closes nothing, and
-- no letter is the quote.
theorem upper_of_taken (ofKey : Identifier.isName key) (ofWord : Identifier.isName word)
    (final : rest = [] ∨ rest = [.char '"']) {after : Text} (taken : Text.afterWord? key (word ++ rest) = some after)
    (closed : (Text.afterQuote after).any isClosing) : key.upper = word.upper := by
  have ofKeys := Identifier.ascii_of_isName ofKey
  have ofWords := Identifier.ascii_of_isName ofWord
  obtain ⟨read, whole, each⟩ := Text.afterWord?_eq_some_iff.mp taken
  rcases List.append_eq_append_iff.mp whole with ⟨more, rfl, same⟩ | ⟨more, rfl, rfl⟩
  · cases more with
    | nil => exact (Text.sameLetters_iff ofKeys ofWords).mp (by simpa using each)
    | cons mark more =>
      have quote : mark = .char '"' := by
        rcases final with rfl | rfl
        · cases same
        · simp_all
      obtain ⟨letter, member, equal⟩ := exists_of_forall₂ each.flip (show mark ∈ _ by simp)
      rw [quote, not_sameLetter_quote (Identifier.parts_of_isName ofKey _ member)] at equal
      cases equal
  · cases more with
    | nil => exact (Text.sameLetters_iff ofKeys ofWords).mp (by simpa using each)
    | cons c more =>
      rw [List.cons_append, not_closing_name (Identifier.parts_of_isName ofWord c (by simp))] at closed
      cases closed

end Ordering

namespace Query

open ChangeCapture.Ordering

variable {spec : Spec} {key name window : Text}

theorem afterBlanks_quoteName (ofName : Identifier.isName name) :
    Text.afterBlanks (" " ++ quoteName name) = [quoteName name] := by
  have apart : Text.afterBlanks (quoteName name) = [] := by
    rcases quoteName_cases name with ⟨-, quoted⟩ | plain
    · rw [quoted]
      rfl
    · obtain ⟨first, later, rfl, letter, -⟩ := Identifier.isName_iff.mp ofName
      have part := Identifier.isNamePart_of_isNameStart letter
      simp [plain, Text.afterBlanks, Identifier.not_isBlank_of_isNamePart part]
  change quoteName name :: Text.afterBlanks (quoteName name) = _
  rw [apart]

theorem closesWith_quoteName_iff (ofKey : Identifier.isName key) (ofName : Identifier.isName name) :
    closesWith key (" " ++ quoteName name) ↔ key.upper = name.upper := by
  have ascii := Identifier.ascii_of_isName ofName
  refine ⟨fun closes => ?_, closesWith_quoteName (Identifier.ascii_of_isName ofKey) ascii⟩
  obtain ⟨start, follows, body, opened, after, taken, closed⟩ := closesWith_iff.mp closes
  rw [afterBlanks_quoteName ofName, List.mem_singleton] at follows
  subst follows
  rcases quoteName_cases name with ⟨-, quoted⟩ | plain
  · rw [quoted] at opened
    rcases List.mem_cons.mp opened with rfl | inside
    · rw [not_afterWord?_quote ofKey] at taken
      cases taken
    · rw [List.mem_singleton.mp inside] at taken
      rw [upper_of_taken ofKey (Identifier.isName_upper ofName) (.inr rfl) taken closed, Text.upper_upper ascii]
  · rw [plain] at opened
    have whole : body = name ++ [] := by
      obtain ⟨first, later, rfl, letter, -⟩ := Identifier.isName_iff.mp ofName
      rw [afterQuote_name (Identifier.isNamePart_of_isNameStart letter)] at opened
      simpa using opened
    exact upper_of_taken ofKey ofName (.inl rfl) (whole ▸ taken) closed

-- The query of every window of an accepted specification uses each end of the window once,
-- and it is ordered by the watermark's spellings alone, whatever its names are.
theorem ordered_by_watermark (accepted : spec.Accepted) (oneLine : .char '\n' ∉ spec.table.watermark)
    (option : window ∈ spec.windows.options) (ofKey : Identifier.isName key) :
    ∃ sql, renderWindow spec window = .ok sql ∧ Text.occurrences (placeholder rangeFrom) sql = 1 ∧
      Text.occurrences (placeholder rangeTo) sql = 1 ∧ (isBy sql key ↔ key.upper = spec.table.watermark.upper) := by
  have valid := accepted.valid
  have ofWatermark := Identifier.isName_of_oneLine valid.watermark oneLine
  refine ⟨_, renderWindow_eq_ok option, rangeFrom_render valid, rangeTo_render valid, ?_⟩
  rw [isBy_render_iff valid, closesWith_quoteName_iff ofKey ofWatermark]

theorem ordered_by_watermark_of_orders : .char '\n' ∉ Spec.Sample.orders.table.watermark ∧
    Text.ofString "5m" ∈ Spec.Sample.orders.windows.options ∧ Identifier.isName "dATE" ∧ Identifier.isName "Order" ∧
    ∃ sql, renderWindow Spec.Sample.orders "5m" = .ok sql ∧ Text.occurrences (placeholder rangeFrom) sql = 1 ∧
      Text.occurrences (placeholder rangeTo) sql = 1 ∧ isBy sql "dATE" ∧ ¬ isBy sql "Order" := by
  have oneLine : .char '\n' ∉ Spec.Sample.orders.table.watermark := by decide
  have option : Text.ofString "5m" ∈ Spec.Sample.orders.windows.options := by decide
  have spelling : Identifier.isName "dATE" := by decide
  have foreign : Identifier.isName "Order" := by decide
  obtain ⟨sql, rendered, lower, upper, spelled⟩ := ordered_by_watermark Spec.Sample.orders_accepted oneLine option spelling
  obtain ⟨again, same, -, -, other⟩ := ordered_by_watermark Spec.Sample.orders_accepted oneLine option foreign
  cases rendered.symm.trans same
  exact ⟨oneLine, option, spelling, foreign, sql, rendered, lower, upper, spelled.mpr (by decide),
    fun ordered => absurd (other.mp ordered) (by decide)⟩

end Query

end ChangeCapture
