import ChangeCapture.Json.Writer
import ChangeCapture.Proofs.Json.Fields
import ChangeCapture.Proofs.Text.Order

namespace ChangeCapture

namespace Sorting

theorem sort_map_value {α β : Type} (change : α → β) (items : List (Text × α)) :
    sort (fun a b => Text.le a.1 b.1) (items.map fun item => (item.1, change item.2)) =
      (sort (fun a b => Text.le a.1 b.1) items).map fun item => (item.1, change item.2) := by
  have inserted : ∀ (item : Text × α) (rest : List (Text × α)),
      insert (fun a b => Text.le a.1 b.1) (item.1, change item.2) (rest.map fun item => (item.1, change item.2)) =
        (insert (fun a b => Text.le a.1 b.1) item rest).map fun item => (item.1, change item.2) := by
    intro item rest
    induction rest with
    | nil => rfl
    | cons next rest ih =>
      simp only [List.map_cons, insert]
      split
      · rfl
      · rw [ih, List.map_cons]
  induction items with
  | nil => rfl
  | cons item rest ih =>
    change insert _ _ (sort _ (rest.map _)) = (insert _ item (sort _ rest)).map _
    rw [ih, inserted]

theorem sort_by_key_idem {α : Type} (items : List (Text × α)) :
    sort (fun a b => Text.le a.1 b.1) (sort (fun a b => Text.le a.1 b.1) items) =
      sort (fun a b => Text.le a.1 b.1) items := by
  apply sort_of_ordered
  apply sort_ordered
  · exact fun a b => Text.le_total a.1 b.1
  · exact fun a b c => Text.le_trans

end Sorting

namespace Json

theorem induct {motive : Json → Prop} (null : motive .null) (bool : ∀ b, motive (.bool b)) (int : ∀ n, motive (.int n))
    (double : ∀ x, motive (.double x)) (text : ∀ t, motive (.text t))
    (list : ∀ items, (∀ item ∈ items, motive item) → motive (.list items))
    (object : ∀ fields : Fields, (∀ field ∈ fields, motive field.2) → motive (.object fields)) (document : Json) :
    motive document := by
  refine @Json.rec motive (fun items => ∀ item ∈ items, motive item) (fun fields => ∀ field ∈ fields, motive field.2)
    (fun field => motive field.2) null bool int double text list object ?_ ?_ ?_ ?_ ?_ document
  · intro item member
    cases member
  · intro item rest first later one member
    rcases List.mem_cons.mp member with rfl | member
    · exact first
    · exact later one member
  · intro field member
    cases member
  · intro field rest first later one member
    rcases List.mem_cons.mp member with rfl | member
    · exact first
    · exact later one member
  · exact fun _ _ value => value

mutual
-- The document with the fields of every object in the order of their names.
def canonical : Json → Json
  | .list items => .list (canonicalItems items)
  | .object fields => .object (Sorting.sort (fun a b => Text.le a.1 b.1) (canonicalFields fields))
  | leaf => leaf

def canonicalItems : List Json → List Json
  | [] => []
  | item :: rest => canonical item :: canonicalItems rest

def canonicalFields : List (Text × Json) → List (Text × Json)
  | [] => []
  | (name, value) :: rest => (name, canonical value) :: canonicalFields rest
end

def canonicalObject (fields : Fields) : Fields :=
  Sorting.sort (fun a b => Text.le a.1 b.1) (fields.map fun field => (field.1, canonical field.2))

theorem canonicalItems_eq_map (items : List Json) : canonicalItems items = items.map canonical := by
  induction items with
  | nil => rfl
  | cons item rest ih => rw [canonicalItems, ih, List.map_cons]

theorem canonicalFields_eq_map (fields : Fields) :
    canonicalFields fields = fields.map fun field => (field.1, canonical field.2) := by
  induction fields with
  | nil => rfl
  | cons field rest ih => rw [canonicalFields, ih, List.map_cons]

theorem canonical_list (items : List Json) : canonical (.list items) = .list (items.map canonical) := by
  rw [canonical, canonicalItems_eq_map]

theorem canonical_object (fields : Fields) : canonical (.object fields) = .object (canonicalObject fields) := by
  rw [canonical, canonicalFields_eq_map, canonicalObject]

theorem writeItems_eq_map (depth : Nat) (items : List Json) : writeItems depth items = items.map (writeAt depth) := by
  induction items with
  | nil => rfl
  | cons item rest ih => rw [writeItems, ih, List.map_cons]

theorem writeFields_eq_map (depth : Nat) (fields : Fields) :
    writeFields depth fields = fields.map fun field => (field.1, writeAt depth field.2) := by
  induction fields with
  | nil => rfl
  | cons field rest ih => rw [writeFields, ih, List.map_cons]

-- The writer sorts the fields of an object after it has written their values; they
-- might as well have been sorted before.
theorem writeAt_object (depth : Nat) (fields : Fields) : writeAt depth (.object fields) =
    enclosed "\x7b" "\x7d" depth ((Sorting.sort (fun a b => Text.le a.1 b.1) fields).map fun field =>
      writeText field.1 ++ ": " ++ writeAt (depth + 1) field.2) := by
  rw [writeAt, writeFields_eq_map, byName, Sorting.sort_map_value, List.map_map]
  rfl

theorem writeAt_list (depth : Nat) (items : List Json) : writeAt depth (.list items) =
    enclosed "[" "]" depth (items.map (writeAt (depth + 1))) := by
  rw [writeAt, writeItems_eq_map]

theorem writeAt_canonical (depth : Nat) (document : Json) : writeAt depth (canonical document) = writeAt depth document := by
  induction document using Json.induct generalizing depth with
  | null | bool | int | double | text => rfl
  | list items ih =>
    rw [canonical_list, writeAt_list, writeAt_list, List.map_map]
    exact congrArg _ (List.map_congr_left fun item member => ih item member (depth + 1))
  | object fields ih =>
    rw [canonical_object, canonicalObject, writeAt_object, writeAt_object, Sorting.sort_by_key_idem, Sorting.sort_map_value, List.map_map]
    refine congrArg _ (List.map_congr_left fun field member => ?_)
    have same := ih field (Sorting.mem_sort.mp member) (depth + 1)
    simp only [Function.comp_apply, same]

theorem write_congr {one other : Json} (same : canonical one = canonical other) : write one = write other := by
  rw [write, write, ← writeAt_canonical 0 one, same, writeAt_canonical]

theorem canonical_canonical (document : Json) : canonical (canonical document) = canonical document := by
  induction document using Json.induct with
  | null | bool | int | double | text => rfl
  | list items ih =>
    rw [canonical_list, canonical_list, List.map_map]
    exact congrArg _ (List.map_congr_left ih)
  | object fields ih =>
    rw [canonical_object, canonical_object, canonicalObject, canonicalObject, Sorting.sort_map_value,
      Sorting.sort_by_key_idem, ← Sorting.sort_map_value, List.map_map]
    refine congrArg _ (congrArg _ (List.map_congr_left fun field member => ?_))
    simp only [Function.comp_apply, ih field member]

theorem lookup_map_value {α β : Type} (change : α → β) (items : List (Text × α)) (key : Text) :
    (items.map fun item => (item.1, change item.2)).lookup key = (items.lookup key).map change := by
  induction items with
  | nil => rfl
  | cons item rest ih =>
    rcases item with ⟨name, value⟩
    simp only [List.map_cons, List.lookup_cons, ih]
    split <;> rfl

theorem canonicalObject_perm (fields : Fields) :
    (canonicalObject fields).Perm (fields.map fun field => (field.1, canonical field.2)) := Sorting.sort_perm _ _

theorem keys_canonicalObject (fields : Fields) : ((canonicalObject fields).map Prod.fst).Perm (fields.map Prod.fst) := by
  have perm := (canonicalObject_perm fields).map Prod.fst
  rwa [List.map_map] at perm

theorem lookup_canonicalObject {fields : Fields} (distinct : (fields.map Prod.fst).Nodup) (key : Text) :
    (canonicalObject fields).lookup key = (fields.lookup key).map canonical := by
  have keys := (keys_canonicalObject fields).nodup_iff.mpr distinct
  rw [lookup_of_perm keys (canonicalObject_perm fields), lookup_map_value]

theorem canonical_put {fields : Fields} {key : Text} {old new : Json} (found : fields.lookup key = some old)
    (same : canonical new = canonical old) :
    canonical (.object (fields.put key new)) = canonical (.object fields) := by
  rw [canonical_object, canonical_object, canonicalObject, canonicalObject]
  refine congrArg _ (congrArg _ ?_)
  induction fields with
  | nil => cases found
  | cons field rest ih =>
    rcases field with ⟨name, value⟩
    by_cases here : name = key
    · subst here
      simp only [List.lookup_cons, beq_self_eq_true, Option.some.injEq] at found
      simp [Fields.put, same, found]
    · have apart : (key == name) = false := by simpa using fun equal => here (Eq.symm equal)
      simp only [List.lookup_cons, apart] at found
      simp [Fields.put, here, ih found]

theorem canonical_of_perm {fields other : Fields} (distinct : (fields.map Prod.fst).Nodup) (perm : fields.Perm other) :
    canonical (.object fields) = canonical (.object other) := by
  rw [canonical_object, canonical_object, canonicalObject, canonicalObject]
  refine congrArg _ (Text.sort_by_key ?_ (perm.map _))
  rwa [List.map_map]

end Json

end ChangeCapture
