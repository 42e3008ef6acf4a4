import ChangeCapture.Proofs.Query.Ordering
import ChangeCapture.Proofs.Text.Parts
import ChangeCapture.Query.Basic
import Mathlib.Data.List.Basic

namespace ChangeCapture

namespace Fragment

def edge? : Fragment → Option Text
  | .bound edge | .condition _ _ edge => some edge
  | _ => none

def WellFormed : Fragment → Prop
  | .name parts => ∀ part ∈ parts, Identifier.accepts part
  | .star => True
  | .bound edge => Identifier.accepts edge
  | .condition column operator edge =>
    (∀ part ∈ column, Identifier.accepts part) ∧ operator ∈ [Text.ofString ">=", "<"] ∧ Identifier.accepts edge

instance (fragment : Fragment) : Decidable fragment.WellFormed :=
  match fragment with
  | .name parts => inferInstanceAs (Decidable (∀ part ∈ parts, Identifier.accepts part))
  | .star => inferInstanceAs (Decidable True)
  | .bound edge => inferInstanceAs (Decidable (Identifier.accepts edge))
  | .condition column operator edge => inferInstanceAs (Decidable ((∀ part ∈ column, Identifier.accepts part) ∧
      operator ∈ [Text.ofString ">=", "<"] ∧ Identifier.accepts edge))

end Fragment

namespace Query

def plainKeywords : List Text := ["SELECT", "FROM", "WHERE", "AND"]

structure WellFormed (query : Query) : Prop where
  keywords : ∀ clause ∈ query.clauses, clause.keyword = Text.ofString "ORDER BY" ∨ clause.keyword ∈ plainKeywords
  fragments : ∀ clause ∈ query.clauses, ∀ fragment ∈ clause.fragments, fragment.WellFormed
  ordered : ∃ earlier fragments, query.clauses = earlier ++ [⟨"ORDER BY", fragments⟩]

variable {query : Query} {clause : Clause} {fragment : Fragment} {name edge other word separator : Text} {words : List Text}

theorem quoteName_cases (name : Text) :
    name.upper ∈ reservedWords ∧ quoteName name = .char '"' :: (name.upper ++ [.char '"']) ∨ quoteName name = name := by
  unfold quoteName
  split
  · rename_i reserved
    exact .inl ⟨by simpa using reserved, rfl⟩
  · exact .inr rfl

theorem parts_of_reserved : ∀ word ∈ reservedWords, ∀ c ∈ word, Identifier.isNamePart c := by decide

theorem parts_of_quoteName (accepted : Identifier.accepts name) :
    ∀ c ∈ quoteName name, Identifier.isNamePart c ∨ c = .char '"' ∨ c = .char '\n' := by
  intro c member
  rcases quoteName_cases name with ⟨reserved, quoted⟩ | same
  · rw [quoted, List.mem_cons, List.mem_append, List.mem_singleton] at member
    rcases member with quote | inside | quote
    · exact .inr (.inl quote)
    · exact .inl (parts_of_reserved _ reserved c inside)
    · exact .inr (.inl quote)
  · rw [same] at member
    exact (Identifier.part_or_break accepted c member).imp_right .inr

theorem absent_of_accepts {mark : CodePoint} (foreign : Identifier.isNamePart mark = false) (other : mark ≠ .char '\n')
    (accepted : Identifier.accepts name) : mark ∉ name := by
  intro member
  rcases Identifier.part_or_break accepted mark member with part | final
  · rw [foreign] at part
    cases part
  · exact other final

theorem absent_of_quoteName {mark : CodePoint} (foreign : Identifier.isNamePart mark = false) (noQuote : mark ≠ .char '"')
    (other : mark ≠ .char '\n') (accepted : Identifier.accepts name) : mark ∉ quoteName name := by
  intro member
  rcases parts_of_quoteName accepted mark member with part | quote | final
  · rw [foreign] at part
    cases part
  · exact noQuote quote
  · exact other final

-- Where the ends of a window are written, and nowhere else.
section Bounds

open Text (Adds adds_of_not_mem adds_self adds_joined)

theorem placeholder_eq_iff {rest tail : Text} (accepted : Identifier.accepts edge) (accepts : Identifier.accepts other) :
    placeholder edge ++ rest = placeholder other ++ tail ↔ edge = other ∧ rest = tail := by
  have closed : ∀ {name : Text}, Identifier.accepts name → ∀ c ∈ name, (decide (c = .char '\x7d')) = false := by
    intro name accepted c member
    exact decide_eq_false fun same => absent_of_accepts (by decide) (by decide) accepted (same ▸ member)
  have brace : Text.ofString "\x7d" = [.char '\x7d'] := rfl
  simp only [placeholder, List.append_assoc, List.append_cancel_left_eq, brace, List.singleton_append]
  rw [Text.append_eq_append_iff_of_marks (closed accepted) (closed accepts) rfl rfl, List.cons.injEq]
  simp

theorem adds_placeholder (accepted : Identifier.accepts edge) (accepts : Identifier.accepts other) :
    Adds (placeholder edge) (placeholder other) (if other = edge then 1 else 0) := by
  split
  · rename_i same
    rw [same]
    exact adds_self _ _
  · rename_i apart
    have unmarked : .char '$' ∉ Text.ofString "\x7b" ++ other ++ "\x7d" := by
      have inside : .char '$' ∉ other := absent_of_accepts (by decide) (by decide) accepts
      simp [inside, Text.ofString]
    refine Text.adds_cons (fun rest => ?_) (adds_of_not_mem unmarked)
    cases missed : Text.startsWith (placeholder other ++ rest) (placeholder edge) with
    | false => exact missed
    | true =>
      obtain ⟨tail, same⟩ := Text.startsWith_iff.mp missed
      exact absurd ((placeholder_eq_iff accepts accepted).mp same).1 apart

theorem adds_bound (accepted : Identifier.accepts edge) (accepts : Identifier.accepts other) :
    Adds (placeholder edge) (Fragment.renderBound other) (if other = edge then 1 else 0) := by
  have opened : Adds (placeholder edge) "TO_TIMESTAMP(" 0 := adds_of_not_mem (by decide)
  have closed : Adds (placeholder edge) ", 'YYYY-MM-DD HH24:MI:SS.FF')" 0 := adds_of_not_mem (by decide)
  have whole := (opened.append (adds_placeholder accepted accepts)).append closed
  rwa [Nat.zero_add, Nat.add_zero] at whole

theorem adds_renderName {parts : List Text} (accepted : ∀ part ∈ parts, Identifier.accepts part) :
    Adds (placeholder edge) (Fragment.renderName parts) 0 := by
  have apart : Adds (placeholder edge) "." 0 := adds_of_not_mem (by decide)
  have none : Adds (placeholder edge) (Text.joined "." (parts.map quoteName)) (parts.map fun _ => 0).sum := adds_joined apart fun part member =>
    adds_of_not_mem (absent_of_quoteName (by decide) (by decide) (by decide) (accepted part member))
  simpa [Fragment.renderName] using none

theorem adds_fragment (accepted : Identifier.accepts edge) (wellFormed : fragment.WellFormed) :
    Adds (placeholder edge) fragment.render (if fragment.edge? = some edge then 1 else 0) := by
  cases fragment with
  | name parts => exact adds_renderName wellFormed
  | star => exact adds_of_not_mem (by decide)
  | bound other => simpa [Fragment.render, Fragment.edge?] using adds_bound accepted wellFormed
  | condition column operator other =>
    obtain ⟨named, compares, accepts⟩ := wellFormed
    have between : Adds (placeholder edge) (" " ++ operator ++ " ") 0 := by
      rcases List.mem_pair.mp compares with rfl | rfl <;> exact adds_of_not_mem (by decide)
    have whole := ((adds_renderName named).append between).append (adds_bound accepted accepts)
    simpa [Fragment.render, Fragment.edge?] using whole

theorem boundNames_eq (query : Query) :
    query.boundNames = query.clauses.flatMap fun clause => clause.fragments.filterMap Fragment.edge? := by
  unfold boundNames
  congr

theorem count_edges (fragments : List Fragment) (edge : Text) :
    (fragments.filterMap Fragment.edge?).count edge = (fragments.map fun fragment => if fragment.edge? = some edge then 1 else 0).sum := by
  rw [List.count_filterMap]
  induction fragments with
  | nil => rfl
  | cons first later ih =>
    rw [List.countP_cons, ih, List.map_cons, List.sum_cons, Nat.add_comm]
    simp

theorem occurrences_render (wellFormed : query.WellFormed) (accepted : Identifier.accepts edge) :
    Text.occurrences (placeholder edge) query.render = query.boundNames.count edge := by
  have comma : Adds (placeholder edge) ", " 0 := adds_of_not_mem (by decide)
  have blank : Adds (placeholder edge) " " 0 := adds_of_not_mem (by decide)
  have ofClause : ∀ clause ∈ query.clauses, Adds (placeholder edge) clause.render ((clause.fragments.filterMap Fragment.edge?).count edge) := by
    intro clause member
    have keyword : Adds (placeholder edge) clause.keyword 0 := by
      have unmarked : ∀ keyword ∈ plainKeywords, .char '$' ∉ keyword := by decide
      rcases wellFormed.keywords clause member with same | plain
      · rw [same]
        exact adds_of_not_mem (by decide)
      · exact adds_of_not_mem (unmarked _ plain)
    have listed := adds_joined comma fun fragment there => adds_fragment accepted (wellFormed.fragments clause member fragment there)
    have whole := (keyword.append blank).append listed
    rwa [Nat.zero_add, ← count_edges] at whole
  rw [boundNames_eq, List.count_flatMap]
  exact (adds_joined blank ofClause).occurrences

end Bounds

-- Where an ordering clause begins, and nowhere else.
section Orderings

open ChangeCapture.Ordering

-- A stretch of a query that is no part of an ordering clause.
def Passed (word : Text) : Prop := ∀ rest, separates rest → found false (word ++ rest) = found false rest

theorem found_mark {c : CodePoint} (ascii : c.isAscii) (mark : c.isWord = false) (rest : Text) :
    found false (c :: rest) = found false rest := by
  simp [found, not_afterKeyword? ascii mark rest, mark]

theorem passed_of_accepts (accepted : Identifier.accepts name) : Passed name := fun _ apart => found_accepted accepted apart

theorem passed_quoteName (accepted : Identifier.accepts name) : Passed (quoteName name) := by
  intro rest apart
  rcases quoteName_cases name with ⟨reserved, quoted⟩ | same
  · have mark : ∀ rest, found false (.char '"' :: rest) = found false rest := found_mark (by decide) (by decide)
    have named : found false (name.upper ++ .char '"' :: rest) = found false (.char '"' :: rest) :=
      found_name (parts_of_reserved _ reserved) rfl
    rw [quoted, List.cons_append, mark, List.append_assoc]
    exact named.trans (mark rest)
  · rw [same]
    exact passed_of_accepts accepted rest apart

theorem passed_joined (apart : ∀ rest, separates (separator ++ rest))
    (skipped : ∀ rest, found false (separator ++ rest) = found false rest) (passed : ∀ word ∈ words, Passed word) :
    Passed (Text.joined separator words) := by
  induction words with
  | nil => exact fun _ _ => rfl
  | cons first later ih =>
    obtain ⟨ofFirst, ofLater⟩ := List.forall_mem_cons.mp passed
    cases later with
    | nil => exact ofFirst
    | cons second later =>
      intro rest closed
      rw [Text.joined, List.append_assoc, List.append_assoc, ofFirst _ (apart _), skipped]
      · exact ih ofLater rest closed
      · exact List.cons_ne_nil second later

theorem passed_renderName {parts : List Text} (accepted : ∀ part ∈ parts, Identifier.accepts part) :
    Passed (Fragment.renderName parts) := by
  apply passed_joined (fun _ => rfl) fun _ => rfl
  intro word member
  obtain ⟨part, there, rfl⟩ := List.mem_map.mp member
  exact passed_quoteName (accepted part there)

theorem passed_bound (accepted : Identifier.accepts edge) : Passed (Fragment.renderBound edge) := by
  intro rest apart
  have opened : ∀ rest, found false ("TO_TIMESTAMP(" ++ ("$\x7b" ++ rest)) = found false rest := fun _ => rfl
  have closed : ∀ rest, found false ("\x7d" ++ (", 'YYYY-MM-DD HH24:MI:SS.FF')" ++ rest)) = found false rest := fun _ => rfl
  simp only [Fragment.renderBound, placeholder, List.append_assoc]
  rw [opened, passed_of_accepts accepted _ rfl, closed]

theorem passed_fragment (wellFormed : fragment.WellFormed) : Passed fragment.render := by
  cases fragment with
  | name parts => exact passed_renderName wellFormed
  | star => exact fun _ _ => rfl
  | bound edge => exact passed_bound wellFormed
  | condition column operator edge =>
    obtain ⟨named, compares, accepted⟩ := wellFormed
    intro rest apart
    simp only [Fragment.render, List.append_assoc]
    rcases List.mem_pair.mp compares with rfl | rfl
    · have between : ∀ rest, found false (" " ++ (">=" ++ (" " ++ rest))) = found false rest := fun _ => rfl
      rw [passed_renderName named _ rfl, between, passed_bound accepted rest apart]
    · have between : ∀ rest, found false (" " ++ ("<" ++ (" " ++ rest))) = found false rest := fun _ => rfl
      rw [passed_renderName named _ rfl, between, passed_bound accepted rest apart]

theorem passed_fragments {fragments : List Fragment} (wellFormed : ∀ fragment ∈ fragments, fragment.WellFormed) :
    Passed (Text.joined ", " (fragments.map Fragment.render)) := by
  apply passed_joined (fun _ => rfl) fun _ => rfl
  intro word member
  obtain ⟨fragment, there, rfl⟩ := List.mem_map.mp member
  exact passed_fragment (wellFormed fragment there)

theorem passed_clause (plain : clause.keyword ∈ plainKeywords) (wellFormed : ∀ fragment ∈ clause.fragments, fragment.WellFormed) :
    Passed clause.render := by
  have keyword : ∀ keyword ∈ plainKeywords, ∀ rest, found false (keyword ++ (" " ++ rest)) = found false rest := by
    intro keyword member rest
    simp only [plainKeywords, List.mem_cons, List.not_mem_nil, or_false] at member
    rcases member with rfl | rfl | rfl | rfl <;> rfl
  intro rest apart
  rw [Clause.render, List.append_assoc, List.append_assoc, keyword _ plain]
  exact passed_fragments wellFormed rest apart

theorem separates_clause (clause : Clause) (known : clause.keyword = Text.ofString "ORDER BY" ∨ clause.keyword ∈ plainKeywords) (rest : Text) :
    separates (" " ++ (clause.render ++ rest)) := by
  simp only [plainKeywords, List.mem_cons, List.not_mem_nil, or_false] at known
  rw [Clause.render, List.append_assoc]
  rcases known with same | same | same | same | same <;> rw [same] <;> rfl

theorem found_render {earlier : List Clause} {fragments : List Fragment}
    (known : ∀ clause ∈ earlier, clause.keyword ∈ plainKeywords)
    (wellFormed : ∀ clause ∈ earlier, ∀ fragment ∈ clause.fragments, fragment.WellFormed)
    (last : ∀ fragment ∈ fragments, fragment.WellFormed) :
    found false (render ⟨earlier ++ [⟨"ORDER BY", fragments⟩]⟩) = [" " ++ Text.joined ", " (fragments.map Fragment.render)] := by
  induction earlier with
  | nil =>
    have none : found false (Text.joined ", " (fragments.map Fragment.render)) = [] := by
      have passed := passed_fragments last [] rfl
      rwa [List.append_nil] at passed
    have begins : ∀ rest, found false ("ORDER BY" ++ (" " ++ rest)) = (" " ++ rest) :: found false rest := fun _ => rfl
    rw [List.nil_append, render, List.map_singleton, Text.joined, Clause.render, List.append_assoc, begins, none]
  | cons clause earlier ih =>
    obtain ⟨plain, later⟩ := List.forall_mem_cons.mp known
    obtain ⟨ofClause, ofLater⟩ := List.forall_mem_cons.mp wellFormed
    have blank : ∀ rest, found false (" " ++ rest) = found false rest := fun _ => rfl
    have split : render ⟨clause :: earlier ++ [⟨"ORDER BY", fragments⟩]⟩ =
        clause.render ++ (" " ++ render ⟨earlier ++ [⟨"ORDER BY", fragments⟩]⟩) := by
      rw [render, List.cons_append, List.map_cons, Text.joined, List.append_assoc]
      · rfl
      · simp
    have apart : separates (" " ++ render ⟨earlier ++ [⟨"ORDER BY", fragments⟩]⟩) := by
      cases earlier with
      | nil => exact separates_clause ⟨"ORDER BY", fragments⟩ (.inl rfl) []
      | cons next earlier =>
        rw [render, List.cons_append, List.map_cons, Text.joined, List.append_assoc]
        · exact separates_clause next (.inr (later next (List.mem_cons_self ..))) _
        · simp
    rw [split, passed_clause plain ofClause _ apart, blank]
    exact ih later ofLater

theorem isBy_iff_of_ordered {earlier : List Clause} {fragments : List Fragment} {key : Text} (wellFormed : query.WellFormed)
    (split : query.clauses = earlier ++ [⟨"ORDER BY", fragments⟩])
    (single : ∀ clause ∈ earlier, clause.keyword ≠ Text.ofString "ORDER BY") :
    isBy query.render key ↔ closesWith key (" " ++ Text.joined ", " (fragments.map Fragment.render)) := by
  have known : ∀ clause ∈ earlier, clause.keyword ∈ plainKeywords := fun clause member =>
    (wellFormed.keywords clause (split ▸ List.mem_append_left _ member)).resolve_left (single clause member)
  have ofEarlier : ∀ clause ∈ earlier, ∀ fragment ∈ clause.fragments, fragment.WellFormed := fun clause member =>
    wellFormed.fragments clause (split ▸ List.mem_append_left _ member)
  have last : ∀ fragment ∈ fragments, fragment.WellFormed :=
    wellFormed.fragments ⟨"ORDER BY", fragments⟩ (split ▸ List.mem_append_right _ (List.mem_singleton_self _))
  have one : found false query.render = [" " ++ Text.joined ", " (fragments.map Fragment.render)] := by
    have found := found_render known ofEarlier last
    rwa [← split] at found
  have apart : startsNoWord (" " ++ Text.joined ", " (fragments.map Fragment.render)) := rfl
  simp [isBy, one, apart]

end Orderings

end Query

end ChangeCapture
