import ChangeCapture.Proofs.Json.Fields
import ChangeCapture.Proofs.Query.Rendering

namespace ChangeCapture

namespace Ordering

variable {key after : Text}

theorem blanks_of_afterBlanks {text start : Text} (follows : start ∈ Text.afterBlanks text) :
    ∃ blanks, text = blanks ++ start ∧ ∀ c ∈ blanks, c.isBlank := by
  induction text with
  | nil => cases follows
  | cons c rest ih =>
    unfold Text.afterBlanks at follows
    split at follows
    · rename_i blank
      rcases List.mem_cons.mp follows with rfl | later
      · exact ⟨[c], rfl, by simpa using blank⟩
      · obtain ⟨blanks, rfl, each⟩ := ih later
        exact ⟨c :: blanks, rfl, List.forall_mem_cons.mpr ⟨blank, each⟩⟩
    · cases follows

theorem quote_of_afterQuote {text body : Text} (opened : body ∈ Text.afterQuote text) : text = body ∨ text = .char '"' :: body := by
  unfold Text.afterQuote at opened
  split at opened
  · rcases List.mem_pair.mp opened with rfl | rfl
    · exact .inl rfl
    · exact .inr rfl
  · exact .inl (List.mem_singleton.mp opened).symm

theorem blanks_of_isClosing {text : Text} (closing : isClosing text) : ∀ c ∈ text, c.isBlank ∨ c = .char ';' := by
  have split : text.takeWhile CodePoint.isBlank ++ text.dropWhile CodePoint.isBlank = text := List.takeWhile_append_dropWhile
  have before : ∀ c ∈ text.takeWhile CodePoint.isBlank, c.isBlank := List.all_eq_true.mp List.all_takeWhile
  unfold isClosing at closing
  intro c member
  rw [← split, List.mem_append] at member
  rcases member with inside | behind
  · exact .inl (before c inside)
  · split at closing
    · rename_i none
      rw [none] at behind
      cases behind
    · rename_i mark rest same
      rw [same] at behind
      simp only [Bool.and_eq_true, decide_eq_true_eq, List.all_eq_true] at closing
      rcases List.mem_cons.mp behind with rfl | later
      · exact .inr closing.1
      · exact .inl (closing.2 c later)

-- The closing clause by a key holds nothing but the key's letters, blanks, quotes and a semicolon.
theorem marks_of_closesWith (closes : closesWith key after) :
    ∀ c ∈ after, c.isBlank ∨ c = .char '"' ∨ c = .char ';' ∨ ∃ letter ∈ key, CodePoint.sameLetter letter c := by
  obtain ⟨start, follows, body, opened, rest, taken, closed⟩ := closesWith_iff.mp closes
  obtain ⟨blanks, rfl, blank⟩ := blanks_of_afterBlanks follows
  obtain ⟨read, rfl, each⟩ := Text.afterWord?_eq_some_iff.mp taken
  obtain ⟨final, ended, closing⟩ := List.any_eq_true.mp closed
  have ofFinal := blanks_of_isClosing closing
  have ofRest : ∀ c ∈ rest, c.isBlank ∨ c = .char '"' ∨ c = .char ';' := by
    intro c member
    rcases quote_of_afterQuote ended with rfl | rfl
    · exact (ofFinal c member).imp_right .inr
    · rcases List.mem_cons.mp member with rfl | later
      · exact .inr (.inl rfl)
      · exact (ofFinal c later).imp_right .inr
  have ofBody : ∀ c ∈ read ++ rest, c.isBlank ∨ c = .char '"' ∨ c = .char ';' ∨ ∃ letter ∈ key, CodePoint.sameLetter letter c := by
    intro c member
    rcases List.mem_append.mp member with inside | behind
    · exact .inr (.inr (.inr (exists_of_forall₂ each.flip inside)))
    · exact (ofRest c behind).imp_right (Or.imp_right .inl)
  intro c member
  rcases List.mem_append.mp member with before | member
  · exact .inl (blank c before)
  · rcases quote_of_afterQuote opened with rfl | rfl
    · exact ofBody c member
    · rcases List.mem_cons.mp member with rfl | later
      · exact .inr (.inl rfl)
      · exact ofBody c later

theorem absent_of_closesWith {mark : CodePoint} (accepted : Identifier.accepts key) (closes : closesWith key after)
    (joins : mark = .char ',' ∨ mark = .char '.') : mark ∉ after := by
  intro member
  have foreign : mark.isBlank = false ∧ mark ≠ .char '"' ∧ mark ≠ .char ';' ∧ mark.isAscii ∧
      Identifier.isNamePart mark.upperOne = false ∧ mark.upperOne ≠ .char '\n' := by
    rcases joins with rfl | rfl <;> decide
  obtain ⟨noBlank, noQuote, noStop, ascii, noPart, noBreak⟩ := foreign
  rcases marks_of_closesWith closes mark member with blank | quote | stop | ⟨letter, spelled, same⟩
  · rw [noBlank] at blank
    cases blank
  · exact noQuote quote
  · exact noStop stop
  · have ofLetter := List.all_eq_true.mp (Identifier.ascii_of_accepts accepted) letter spelled
    have upper := (CodePoint.sameLetter_iff ofLetter ascii).mp same
    rcases Identifier.part_or_break accepted letter spelled with part | rfl
    · have again := Identifier.isNamePart_upperOne part
      rw [upper, noPart] at again
      cases again
    · exact noBreak (upper.symm.trans (by decide))

end Ordering

namespace Query

open ChangeCapture.Ordering

variable {query : Query} {key : Text} {fragment : Fragment} {fragments : List Fragment} {earlier : List Clause}

theorem lint_eq_ok_iff : query.lint key = .ok () ↔ query.orderings? = some [[key]] ∧ query.boundCounts.length = 2 ∧
    query.boundCounts.lookup rangeFrom = some 1 ∧ query.boundCounts.lookup rangeTo = some 1 := by
  unfold lint
  split
  · rename_i absent
    simp [absent]
  · rename_i orderings found
    split
    · rename_i other
      simp [found, other]
    · rename_i same
      rw [found, not_not.mp same]
      dsimp only
      split
      · rename_i once
        simp [once]
      · rename_i other
        simp [other]

theorem count_of_lookup {edge : Text} {times : Nat} (counted : query.boundCounts.lookup edge = some times) :
    query.boundNames.count edge = times := by
  obtain ⟨name, -, same⟩ := List.mem_map.mp (mem_of_lookup counted)
  cases same
  rfl

theorem ordering_of_lint (split : query.clauses = earlier ++ [⟨"ORDER BY", fragments⟩]) (found : query.orderings? = some [[key]]) :
    (∀ clause ∈ earlier, clause.keyword ≠ Text.ofString "ORDER BY") ∧ namesOf fragments = some [key] := by
  have last : [Clause.mk "ORDER BY" fragments].filter (fun clause => clause.keyword = Text.ofString "ORDER BY") =
      [⟨"ORDER BY", fragments⟩] := List.filter_cons_of_pos (by simp)
  rw [orderings?, split, List.filter_append, last, List.mapM_append] at found
  simp only [Option.bind_eq_bind, Option.bind_eq_some_iff, Option.pure_def, Option.some.injEq] at found
  obtain ⟨before, ofEarlier, final, ofLast, whole⟩ := found
  obtain ⟨names, named, rfl⟩ : ∃ names, namesOf fragments = some names ∧ [names] = final := by
    simpa [List.mapM_cons, Option.bind_eq_some_iff] using ofLast
  obtain ⟨rfl, single⟩ : before = [] ∧ [names] = [[key]] := by
    cases before with
    | nil => exact ⟨rfl, whole⟩
    | cons first rest => simp at whole
  cases single
  refine ⟨fun clause member same => ?_, named⟩
  have kept : clause ∈ earlier.filter fun clause => clause.keyword = Text.ofString "ORDER BY" :=
    List.mem_filter.mpr ⟨member, by simpa using same⟩
  obtain ⟨first, rest, filled⟩ := List.exists_cons_of_ne_nil (List.ne_nil_of_mem kept)
  rw [filled, List.mapM_cons] at ofEarlier
  simp [Option.bind_eq_some_iff] at ofEarlier

theorem name_of_namesOf (named : namesOf [fragment] = some [key]) : ∃ parts, fragment = .name parts ∧ parts.getLast? = some key := by
  cases fragment with
  | name parts =>
    refine ⟨parts, rfl, ?_⟩
    unfold namesOf at named
    split at named
    · rename_i name names last none
      cases none
      cases named
      exact last
    · cases named
  | star | bound | condition => cases named

theorem fragments_of_closesWith (accepted : Identifier.accepts key) (named : namesOf fragments = some [key])
    (closes : closesWith key (" " ++ Text.joined ", " (fragments.map Fragment.render))) : fragments = [.name [key]] := by
  have noComma := absent_of_closesWith accepted closes (.inl rfl)
  have noPoint := absent_of_closesWith accepted closes (.inr rfl)
  cases fragments with
  | nil => cases named
  | cons first later =>
    cases later with
    | cons second later =>
      refine absurd ?_ noComma
      rw [List.map_cons, List.map_cons, Text.joined_cons_cons]
      simp [Text.ofString]
    | nil =>
      obtain ⟨parts, rfl, last⟩ := name_of_namesOf named
      cases parts with
      | nil => cases last
      | cons part parts =>
        cases parts with
        | nil =>
          cases last
          rfl
        | cons other parts =>
          refine absurd ?_ noPoint
          rw [List.map_singleton, Text.joined, Fragment.render, Fragment.renderName, List.map_cons, List.map_cons, Text.joined_cons_cons]
          simp [Text.ofString]

-- A query that passes the lint refers to each end of the window once in its text too. Its text
-- is ordered by the key as the contract asks for just when the ordering clause lists the bare key
-- and nothing else: the lint also lets through qualified keys and whatever is no name.
theorem rules_of_lint (wellFormed : query.WellFormed) (accepted : Identifier.accepts key) (passed : query.lint key = .ok ()) :
    Text.occurrences (placeholder rangeFrom) query.render = 1 ∧ Text.occurrences (placeholder rangeTo) query.render = 1 ∧
      (isBy query.render key ↔ ∃ earlier, query.clauses = earlier ++ [⟨"ORDER BY", [.name [key]]⟩]) := by
  obtain ⟨found, -, lower, upper⟩ := lint_eq_ok_iff.mp passed
  obtain ⟨earlier, fragments, split⟩ := wellFormed.ordered
  obtain ⟨single, named⟩ := ordering_of_lint split found
  refine ⟨?_, ?_, ?_⟩
  · rw [occurrences_render wellFormed (by decide), count_of_lookup lower]
  · rw [occurrences_render wellFormed (by decide), count_of_lookup upper]
  · rw [isBy_iff_of_ordered wellFormed split single]
    constructor
    · intro closes
      exact ⟨earlier, by rw [split, fragments_of_closesWith accepted named closes]⟩
    · rintro ⟨others, same⟩
      obtain ⟨-, last⟩ := List.append_inj' (split.symm.trans same) rfl
      cases last
      have ascii := Identifier.ascii_of_accepts accepted
      exact closesWith_quoteName ascii ascii rfl

def orderedBy (fragments : List Fragment) : Query :=
  ⟨[⟨"SELECT", [.star]⟩, ⟨"FROM", [.name ["S", "T"]]⟩, ⟨"WHERE", [.condition ["U"] ">=" rangeFrom]⟩,
    ⟨"AND", [.condition ["U"] "<" rangeTo]⟩, ⟨"ORDER BY", fragments⟩]⟩

theorem wellFormed_orderedBy (fragments : List Fragment) (wellFormed : ∀ fragment ∈ fragments, fragment.WellFormed) :
    (orderedBy fragments).WellFormed := by
  refine ⟨by simp [orderedBy, plainKeywords], ?_, [_, _, _, _], fragments, rfl⟩
  simp only [orderedBy, List.forall_mem_cons, List.not_mem_nil, false_imp_iff, implies_true, and_true, Fragment.WellFormed]
  exact ⟨trivial, by decide, by decide, by decide, wellFormed⟩

theorem rules_of_quoted : (orderedBy [.name ["date"]]).WellFormed ∧ Identifier.accepts "date" ∧
    (orderedBy [.name ["date"]]).lint "date" = .ok () ∧
    Text.occurrences (placeholder rangeFrom) (orderedBy [.name ["date"]]).render = 1 ∧
    Text.occurrences (placeholder rangeTo) (orderedBy [.name ["date"]]).render = 1 ∧
    isBy (orderedBy [.name ["date"]]).render "date" := by
  have wellFormed := wellFormed_orderedBy [.name ["date"]] (by decide)
  have passed : (orderedBy [.name ["date"]]).lint "date" = .ok () := by decide
  obtain ⟨lower, upper, ordered⟩ := rules_of_lint wellFormed (by decide) passed
  exact ⟨wellFormed, by decide, passed, lower, upper, ordered.mpr ⟨[_, _, _, _], rfl⟩⟩

-- Every column listed behind the watermark, or the watermark of a schema: neither is seen.
theorem linted_and_unordered :
    ((orderedBy [.name ["U"], .star]).WellFormed ∧ Identifier.accepts "U" ∧ (orderedBy [.name ["U"], .star]).lint "U" = .ok () ∧
      ¬ isBy (orderedBy [.name ["U"], .star]).render "U") ∧
    (orderedBy [.name ["S", "U"]]).WellFormed ∧ (orderedBy [.name ["S", "U"]]).lint "U" = .ok () ∧
      ¬ isBy (orderedBy [.name ["S", "U"]]).render "U" := by
  have listed := wellFormed_orderedBy [.name ["U"], .star] (by decide)
  have qualified := wellFormed_orderedBy [.name ["S", "U"]] (by decide)
  exact ⟨⟨listed, by decide, by decide, by decide⟩, qualified, by decide, by decide⟩

end Query

end ChangeCapture
