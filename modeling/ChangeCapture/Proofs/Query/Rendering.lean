import ChangeCapture.Proofs.Query.Structure
import ChangeCapture.Proofs.Spec.Accepted
import ChangeCapture.Query.Lint

namespace ChangeCapture.Query

open ChangeCapture.Ordering

variable {spec : Spec}

def listing (spec : Spec) : Text :=
  match spec.columnNames with
  | some (first :: rest) => Text.joined ", " ((first :: rest).map quoteName)
  | _ => "*"

theorem render_ofSpec (spec : Spec) : (ofSpec spec).render =
    "SELECT " ++ listing spec ++ " FROM " ++ quoteName spec.table.schema ++ "." ++ quoteName spec.tableName ++
      " WHERE " ++ quoteName spec.table.watermark ++ " >= " ++ Fragment.renderBound rangeFrom ++
      " AND " ++ quoteName spec.table.watermark ++ " < " ++ Fragment.renderBound rangeTo ++
      " ORDER BY " ++ quoteName spec.table.watermark := by
  have listing_eq : listing spec = Text.joined ", " ((match spec.columnNames with
      | some (first :: rest) => (first :: rest).map fun name => Fragment.name [name]
      | _ => [.star]).map Fragment.render) := by
    unfold listing
    split <;> simp [Fragment.render, Fragment.renderName, Function.comp_def, Text.joined]
  rw [listing_eq]
  simp only [ofSpec, render, Clause.render, Fragment.render, Fragment.renderName, List.map_cons, List.map_nil, Text.joined,
    List.append_assoc]
  rfl

theorem wellFormed_ofSpec (valid : spec.Valid) : (ofSpec spec).WellFormed := by
  have single : ∀ {name : Text}, Identifier.accepts name → ∀ part ∈ [name], Identifier.accepts part := by simp
  have ofEdge : Identifier.accepts rangeFrom ∧ Identifier.accepts rangeTo := by decide
  refine ⟨?_, ?_, [_, _, _, _], _, rfl⟩
  · simp [ofSpec, plainKeywords]
  · simp only [ofSpec, List.forall_mem_cons, List.not_mem_nil, false_imp_iff, implies_true, and_true]
    refine ⟨?_, List.forall_mem_cons.mpr ⟨valid.schema, single (Identifier.accepts_upper valid.name)⟩, ⟨single valid.watermark, by simp, ofEdge.1⟩,
      ⟨single valid.watermark, by simp, ofEdge.2⟩, single valid.watermark⟩
    split
    · rename_i first rest named
      obtain ⟨columns, given, same⟩ := Option.map_eq_some_iff.mp named
      intro fragment member
      obtain ⟨name, there, rfl⟩ := List.mem_map.mp member
      rw [← same] at there
      obtain ⟨column, listed, rfl⟩ := List.mem_map.mp there
      exact single ((valid.columns columns given).2 column listed)
    · exact List.forall_mem_singleton.mpr trivial

theorem closesWith_quoteName {key name : Text} (ascii : key.isAscii) (ofName : name.isAscii) (same : key.upper = name.upper) :
    closesWith key (" " ++ quoteName name) := by
  have follows : quoteName name ∈ Text.afterBlanks (" " ++ quoteName name) := List.mem_cons_self ..
  refine closesWith_iff.mpr ⟨_, follows, ?_⟩
  rcases quoteName_cases name with ⟨-, quoted⟩ | plain
  · have taken := (Text.sameLetters_iff ascii (Text.ascii_upper ofName)).mpr (same.trans (Text.upper_upper ofName).symm)
    have word := Text.afterWord?_eq_some_iff.mpr ⟨name.upper, (rfl : name.upper ++ [.char '"'] = _), taken⟩
    exact ⟨name.upper ++ [.char '"'], by simp [quoted, Text.afterQuote], _, word, rfl⟩
  · have taken := (Text.sameLetters_iff ascii ofName).mpr same
    have word := Text.afterWord?_eq_some_iff.mpr ⟨name, (List.append_nil name).symm, taken⟩
    exact ⟨name, by rw [plain]; unfold Text.afterQuote; split <;> simp, _, word, rfl⟩

theorem isBy_render_iff (valid : spec.Valid) {key : Text} :
    isBy (ofSpec spec).render key ↔ closesWith key (" " ++ quoteName spec.table.watermark) := by
  have ordered : (ofSpec spec).clauses = [_, _, _, _] ++ [⟨"ORDER BY", [.name [spec.table.watermark]]⟩] := rfl
  apply isBy_iff_of_ordered (wellFormed_ofSpec valid) ordered
  simp only [List.forall_mem_cons, List.not_mem_nil, false_imp_iff, implies_true, and_true]
  decide

theorem isBy_render (valid : spec.Valid) : isBy (ofSpec spec).render spec.table.watermark := by
  have ascii := Identifier.ascii_of_accepts valid.watermark
  exact (isBy_render_iff valid).mpr (closesWith_quoteName ascii ascii rfl)

theorem boundNames_ofSpec (spec : Spec) : (ofSpec spec).boundNames = [rangeFrom, rangeTo] := by
  simp only [boundNames, ofSpec, List.flatMap_cons]
  split
  · simp
  · rfl

theorem rangeFrom_render (valid : spec.Valid) : Text.occurrences (placeholder rangeFrom) (ofSpec spec).render = 1 := by
  rw [occurrences_render (wellFormed_ofSpec valid) (by decide), boundNames_ofSpec]
  decide

theorem rangeTo_render (valid : spec.Valid) : Text.occurrences (placeholder rangeTo) (ofSpec spec).render = 1 := by
  rw [occurrences_render (wellFormed_ofSpec valid) (by decide), boundNames_ofSpec]
  decide

theorem lint_ofSpec (spec : Spec) : (ofSpec spec).lint spec.table.watermark = .ok () := by
  have orderings : (ofSpec spec).orderings? = some [[spec.table.watermark]] := rfl
  have counts : (ofSpec spec).boundCounts = [(rangeFrom, 1), (rangeTo, 1)] := by
    rw [boundCounts, boundNames_ofSpec]
    decide
  simp only [lint, orderings, counts, ne_eq, not_true_eq_false, if_false]
  decide

theorem renderWindow_eq_ok {spec : Spec} {window : Text} (member : window ∈ spec.windows.options) :
    renderWindow spec window = .ok (ofSpec spec).render := by
  simp [renderWindow, member, lint_ofSpec, Except.map]

end ChangeCapture.Query
