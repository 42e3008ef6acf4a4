import ChangeCapture.Json.Reader
import ChangeCapture.Proofs.Json.Canonical
import ChangeCapture.Proofs.Outcome
import ChangeCapture.Proofs.Text.Decimal
import Mathlib.Data.List.TakeDrop
import Mathlib.Data.List.TakeWhile

namespace ChangeCapture.Json

variable {items : List Json} {fields : Fields} {document : Json} {text rest : Text} {bound : Nat}

mutual
def every (holds : Json → Bool) : Json → Bool
  | .list items => holds (.list items) && everyItem holds items
  | .object fields => holds (.object fields) && everyField holds fields
  | leaf => holds leaf

def everyItem (holds : Json → Bool) : List Json → Bool
  | [] => true
  | item :: rest => every holds item && everyItem holds rest

def everyField (holds : Json → Bool) : List (Text × Json) → Bool
  | [] => true
  | field :: rest => every holds field.2 && everyField holds rest
end

theorem every_list {holds : Json → Bool} :
    every holds (.list items) ↔ holds (.list items) ∧ ∀ item ∈ items, every holds item := by
  have each : everyItem holds items = items.all (every holds) := by
    induction items with
    | nil => rfl
    | cons item rest ih => rw [everyItem, ih, List.all_cons]
  simp [every, each]

theorem every_object {holds : Json → Bool} :
    every holds (.object fields) ↔ holds (.object fields) ∧ ∀ field ∈ fields, every holds field.2 := by
  have each : everyField holds fields = fields.all fun field => every holds field.2 := by
    induction fields with
    | nil => rfl
    | cons field rest ih => rw [everyField, ih, List.all_cons]
  rw [every, each, Bool.and_eq_true, List.all_eq_true]

-- What any document that was read is like: an integer has no more digits than may
-- be read, and no object has two fields of one name.
def isRegular : Json → Bool
  | .int n => (Text.ofNat n.natAbs).length ≤ digitLimit
  | .object fields => (fields.map Prod.fst).Nodup
  | _ => true

def isExact : Json → Bool
  | .double _ => false
  | _ => true

def Readable (document : Json) : Prop := every isRegular document

def Exact (document : Json) : Prop := every isExact document

instance : DecidablePred Readable := fun document => inferInstanceAs (Decidable (every isRegular document = true))

instance : DecidablePred Exact := fun document => inferInstanceAs (Decidable (every isExact document = true))

def hasDistinctNames : Json → Bool
  | .object fields => (fields.map Prod.fst).Nodup
  | _ => true

def Distinct (document : Json) : Prop := every hasDistinctNames document

instance : DecidablePred Distinct := fun document => inferInstanceAs (Decidable (every hasDistinctNames document = true))

-- A document that comes back when it is written and read again.
structure Storable (document : Json) : Prop where
  readable : document.Readable
  exact : document.Exact

theorem readable_list : Readable (.list items) ↔ ∀ item ∈ items, Readable item := by
  simp [Readable, every_list, isRegular]

theorem readable_object : Readable (.object fields) ↔ (fields.map Prod.fst).Nodup ∧ ∀ field ∈ fields, Readable field.2 := by
  simp [Readable, every_object, isRegular]

theorem distinct_list : Distinct (.list items) ↔ ∀ item ∈ items, Distinct item := by
  simp [Distinct, every_list, hasDistinctNames]

theorem distinct_object : Distinct (.object fields) ↔ (fields.map Prod.fst).Nodup ∧ ∀ field ∈ fields, Distinct field.2 := by
  simp [Distinct, every_object, hasDistinctNames]

theorem Readable.distinct (readable : Readable document) : Distinct document := by
  induction document using Json.induct with
  | null | bool | int | double | text => rfl
  | list items ih => exact distinct_list.mpr fun item member => ih item member (readable_list.mp readable item member)
  | object fields ih =>
    obtain ⟨distinct, each⟩ := readable_object.mp readable
    exact distinct_object.mpr ⟨distinct, fun field member => ih field member (each field member)⟩

theorem storable_list : Storable (.list items) ↔ ∀ item ∈ items, Storable item := by
  constructor
  · rintro ⟨readable, exact⟩ item member
    exact ⟨readable_list.mp readable item member, (every_list.mp exact).2 item member⟩
  · intro each
    exact ⟨readable_list.mpr fun item member => (each item member).readable,
      every_list.mpr ⟨rfl, fun item member => (each item member).exact⟩⟩

theorem storable_object : Storable (.object fields) ↔ (fields.map Prod.fst).Nodup ∧ ∀ field ∈ fields, Storable field.2 := by
  constructor
  · intro held
    obtain ⟨readable, exact⟩ := held
    obtain ⟨distinct, each⟩ := readable_object.mp readable
    exact ⟨distinct, fun field member => ⟨each field member, (every_object.mp exact).2 field member⟩⟩
  · intro held
    obtain ⟨distinct, each⟩ := held
    exact ⟨readable_object.mpr ⟨distinct, fun field member => (each field member).readable⟩,
      every_object.mpr ⟨rfl, fun field member => (each field member).exact⟩⟩

theorem storable_text (value : Text) : Storable (.text value) := ⟨rfl, rfl⟩

theorem storable_canonical (storable : Storable document) : Storable document.canonical := by
  induction document using Json.induct with
  | null | bool | int | double | text => exact storable
  | list items ih =>
    rw [canonical_list, storable_list]
    intro item member
    obtain ⟨one, present, rfl⟩ := List.mem_map.mp member
    exact ih one present (storable_list.mp storable one present)
  | object fields ih =>
    obtain ⟨distinct, each⟩ := storable_object.mp storable
    rw [canonical_object, storable_object]
    refine ⟨(keys_canonicalObject fields).nodup_iff.mpr distinct, fun field member => ?_⟩
    obtain ⟨one, present, rfl⟩ := List.mem_map.mp ((canonicalObject_perm fields).mem_iff.mp member)
    exact ih one present (each one present)

theorem nodup_ofPairs (pairs : Fields) : ((Fields.ofPairs pairs).map Prod.fst).Nodup := by
  have kept : ∀ (pairs start : Fields), (start.map Prod.fst).Nodup →
      ((pairs.foldl (fun fields pair => fields.put pair.1 pair.2) start).map Prod.fst).Nodup := by
    intro pairs
    induction pairs with
    | nil => exact fun start distinct => distinct
    | cons pair rest ih => exact fun start distinct => ih _ (Fields.nodup_put distinct)
  exact kept pairs [] List.nodup_nil

theorem mem_ofPairs {pairs : Fields} {field : Text × Json} (member : field ∈ Fields.ofPairs pairs) : field ∈ pairs := by
  have kept : ∀ (pairs start : Fields), field ∈ pairs.foldl (fun fields pair => fields.put pair.1 pair.2) start →
      field ∈ start ∨ field ∈ pairs := by
    intro pairs
    induction pairs with
    | nil => exact fun start member => .inl member
    | cons pair rest ih =>
      intro start member
      rcases ih _ member with early | late
      · rcases Fields.mem_put early with same | early
        · exact .inr (same ▸ List.mem_cons_self ..)
        · exact .inl early
      · exact .inr (List.mem_cons_of_mem _ late)
  exact (kept pairs [] member).resolve_left List.not_mem_nil

theorem ofPairs_of_distinct {pairs : Fields} (distinct : (pairs.map Prod.fst).Nodup) : Fields.ofPairs pairs = pairs := by
  have put_new : ∀ (fields : Fields) (key : Text) (value : Json), key ∉ fields.map Prod.fst →
      fields.put key value = fields ++ [(key, value)] := by
    intro fields key value new
    induction fields with
    | nil => rfl
    | cons field rest ih =>
      rw [List.map_cons, List.mem_cons, not_or] at new
      rw [Fields.put, if_neg fun same => new.1 same.symm, ih new.2, List.cons_append]
  have kept : ∀ (pairs start : Fields), ((start ++ pairs).map Prod.fst).Nodup →
      pairs.foldl (fun fields pair => fields.put pair.1 pair.2) start = start ++ pairs := by
    intro pairs
    induction pairs with
    | nil => simp
    | cons pair rest ih =>
      intro start distinct
      have new : pair.1 ∉ start.map Prod.fst := by
        rw [List.map_append, List.map_cons, List.nodup_append] at distinct
        exact fun member => distinct.2.2 _ member _ (List.mem_cons_self ..) rfl
      rw [List.foldl_cons, put_new _ _ _ new, ih _ (by simpa using distinct), List.append_assoc, List.singleton_append]
  exact kept pairs [] distinct

theorem readable_int {n : Int} : Readable (.int n) ↔ (Text.ofNat n.natAbs).length ≤ digitLimit := decide_eq_true_iff

theorem readable_of_number {negative : Bool} {whole : Text} (present : whole ≠ []) (digits : ∀ c ∈ whole, c.isDigit)
    (read : readNumberTail negative whole text = .ok (document, rest)) : document.Readable := by
  unfold readNumberTail at read
  dsimp only at read
  split at read
  · split at read
    · cases read
    · rename_i short
      cases read
      have absolute : Int.natAbs (if negative then -(Text.digitsValue whole : Int) else Text.digitsValue whole) =
          Text.digitsValue whole := by
        split <;> omega
      rw [readable_int, absolute]
      have written := Text.length_ofNat (List.length_pos_iff.mpr present) (Text.digitsValue_lt digits)
      exact Nat.le_trans written (Nat.le_of_not_lt short)
  · cases read
    rfl

theorem readable_of_readNumber {negative : Bool} {start : Text}
    (read : readNumber negative start text = .ok (document, rest)) : document.Readable := by
  unfold readNumber at read
  split at read
  · cases read
  · rename_i c more
    split at read
    · rename_i zero
      refine readable_of_number (List.cons_ne_nil _ _) (fun one member => ?_) read
      rw [List.mem_singleton.mp member, zero]
      decide
    · split at read
      · rename_i first
        dsimp only at read
        rw [List.span_eq_takeWhile_dropWhile] at read
        refine readable_of_number (List.cons_ne_nil _ _) (fun one member => ?_) read
        rcases List.mem_cons.mp member with rfl | member
        · exact first
        · exact List.mem_takeWhile_imp member
      · cases read

theorem readable_of_readLiteral {read : Json × Text} (found : readLiteral? text = some read) : read.1.Readable := by
  obtain ⟨entry, member, made⟩ := List.exists_of_findSome?_eq_some found
  obtain ⟨rest, -, rfl⟩ := Option.map_eq_some_iff.mp made
  have each : ∀ entry ∈ literals, entry.2.Readable := by decide
  exact each entry member

theorem readItems_eq_ok (read : readItems (bound + 1) text = .ok (items, rest)) : ∃ item more,
    readValue bound text = .ok (item, more) ∧
      (items = [item] ∨ ∃ behind later, readItems bound behind = .ok (later, rest) ∧ items = item :: later) := by
  unfold readItems at read
  split at read
  · cases read
  · rename_i item more first
    refine ⟨item, more, first, ?_⟩
    split at read
    · cases read
    · split at read
      · cases read
        exact .inl rfl
      · split at read
        · obtain ⟨_, later, made⟩ := map_eq_ok_iff.mp read
          cases made
          exact .inr ⟨_, _, later, rfl⟩
        · cases read

theorem readFields_eq_ok (read : readFields (bound + 1) text = .ok (fields, rest)) : ∃ name inner value more,
    readValue bound inner = .ok (value, more) ∧
      (fields = [(name, value)] ∨
        ∃ behind later, readFields bound behind = .ok (later, rest) ∧ fields = (name, value) :: later) := by
  unfold readFields at read
  split at read
  · cases read
  · split at read
    · split at read
      · cases read
      · rename_i name _ _
        split at read
        · cases read
        · split at read
          · split at read
            · cases read
            · rename_i value more first
              refine ⟨name, _, value, more, first, ?_⟩
              split at read
              · cases read
              · split at read
                · cases read
                  exact .inl rfl
                · split at read
                  · obtain ⟨_, later, made⟩ := map_eq_ok_iff.mp read
                    cases made
                    exact .inr ⟨_, _, later, rfl⟩
                  · cases read
          · cases read
    · cases read

theorem readable_of_readValue
    (ofItems : ∀ {text items rest}, readItems bound text = .ok (items, rest) → ∀ item ∈ items, Readable item)
    (ofFields : ∀ {text fields rest}, readFields bound text = .ok (fields, rest) → ∀ field ∈ fields, Readable field.2)
    (read : readValue (bound + 1) text = .ok (document, rest)) : Readable document := by
  unfold readValue at read
  split at read
  · cases read
  · split at read
    · obtain ⟨_, -, made⟩ := map_eq_ok_iff.mp read
      cases made
      rfl
    · split at read
      · split at read
        · cases read
        · split at read
          · cases read
            rfl
          · obtain ⟨_, later, made⟩ := map_eq_ok_iff.mp read
            cases made
            exact readable_list.mpr (ofItems later)
      · split at read
        · split at read
          · cases read
          · split at read
            · cases read
              rfl
            · obtain ⟨_, later, made⟩ := map_eq_ok_iff.mp read
              cases made
              exact readable_object.mpr ⟨nodup_ofPairs _, fun field member => ofFields later field (mem_ofPairs member)⟩
        · split at read
          · rename_i found
            cases read
            exact readable_of_readLiteral found
          · split at read
            · exact readable_of_readNumber read
            · exact readable_of_readNumber read

-- The three readers call one another with less and less of the bound.
theorem readable_of_readers (bound : Nat) :
    (∀ {text document rest}, readValue bound text = .ok (document, rest) → Readable document) ∧
      (∀ {text items rest}, readItems bound text = .ok (items, rest) → ∀ item ∈ items, Readable item) ∧
      ∀ {text fields rest}, readFields bound text = .ok (fields, rest) → ∀ field ∈ fields, Readable field.2 := by
  induction bound with
  | zero =>
    refine ⟨fun read => ?_, fun read => ?_, fun read => ?_⟩
    · cases read
    · cases read
    · cases read
  | succ bound ih =>
    obtain ⟨ofValue, ofItems, ofFields⟩ := ih
    refine ⟨readable_of_readValue ofItems ofFields, fun {text items rest} read => ?_, fun {text fields rest} read => ?_⟩
    · obtain ⟨item, more, first, same | ⟨behind, later, others, same⟩⟩ := readItems_eq_ok read
      · simpa [same] using ofValue first
      · simpa [same] using ⟨ofValue first, ofItems others⟩
    · obtain ⟨name, inner, value, more, first, same | ⟨behind, later, others, same⟩⟩ := readFields_eq_ok read
      · simpa [same] using ofValue first
      · subst same
        intro field member
        cases member with
        | head => exact ofValue first
        | tail _ member => exact ofFields others field member

theorem readable_of_read (parsed : Json.read text = .ok document) : document.Readable := by
  have all := mapError_eq_ok_iff.mp parsed
  unfold readAll at all
  split at all
  · cases all
  · split at all
    · cases all
    · rename_i value rest first
      split at all
      · cases all
        exact (readable_of_readers _).1 first
      · cases all

end ChangeCapture.Json
