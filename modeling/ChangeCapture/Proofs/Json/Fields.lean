import ChangeCapture.Json.Basic
import Mathlib.Data.List.Nodup
import Mathlib.Data.List.Perm.Basic

namespace ChangeCapture

section Lookup

variable {α β : Type} [BEq α] [LawfulBEq α] {key : α} {value : β} {items : List (α × β)}

theorem mem_of_lookup (found : items.lookup key = some value) : (key, value) ∈ items := by
  obtain ⟨before, after, same, -⟩ := List.lookup_eq_some_iff.mp found
  simp [same]

theorem lookup_of_mem (distinct : (items.map Prod.fst).Nodup) (member : (key, value) ∈ items) :
    items.lookup key = some value := by
  obtain ⟨before, after, rfl⟩ := List.append_of_mem member
  refine List.lookup_eq_some_iff.mpr ⟨before, after, rfl, ?_⟩
  intro item earlier
  rw [List.map_append, List.map_cons, List.nodup_append] at distinct
  have apart := distinct.2.2 item.1 (List.mem_map_of_mem earlier) key (List.mem_cons_self ..)
  simpa using fun same => apart same.symm

theorem lookup_isSome_iff_mem : (items.lookup key).isSome ↔ key ∈ items.map Prod.fst := by
  simp only [List.lookup_isSome_iff, beq_iff_eq, List.mem_map]
  exact ⟨fun ⟨item, member, same⟩ => ⟨item, member, same.symm⟩, fun ⟨item, member, same⟩ => ⟨item, member, same.symm⟩⟩

theorem lookup_eq_none_iff_not_mem : items.lookup key = none ↔ key ∉ items.map Prod.fst := by
  rw [← lookup_isSome_iff_mem, Option.not_isSome_iff_eq_none]

theorem lookup_of_mem_keys (member : key ∈ items.map Prod.fst) : ∃ value, items.lookup key = some value :=
  Option.isSome_iff_exists.mp (lookup_isSome_iff_mem.mpr member)

theorem lookup_of_perm {other : List (α × β)} (distinct : (items.map Prod.fst).Nodup) (perm : items.Perm other) :
    items.lookup key = other.lookup key := by
  cases found : items.lookup key with
  | some value =>
    exact (lookup_of_mem ((perm.map _).nodup_iff.mp distinct) (perm.mem_iff.mp (mem_of_lookup found))).symm
  | none =>
    rw [lookup_eq_none_iff_not_mem, (perm.map Prod.fst).mem_iff] at found
    exact (lookup_eq_none_iff_not_mem.mpr found).symm

theorem perm_of_lookup {other : List (α × β)} (distinct : (items.map Prod.fst).Nodup)
    (distinctOther : (other.map Prod.fst).Nodup) (same : ∀ key, items.lookup key = other.lookup key) :
    items.Perm other := by
  refine (List.perm_ext_iff_of_nodup distinct.of_map distinctOther.of_map).mpr fun item => ⟨fun member => ?_, fun member => ?_⟩
  · exact mem_of_lookup ((same item.1).symm.trans (lookup_of_mem distinct member))
  · exact mem_of_lookup ((same item.1).trans (lookup_of_mem distinctOther member))

end Lookup

theorem Json.field?_eq_some_iff {document value : Json} {key : Text} : document.field? key = some value ↔
    ∃ fields, document = .object fields ∧ fields.lookup key = some value := by
  cases document <;> simp [Json.field?]

namespace Fields

variable {fields : Fields} {key other : Text} {value : Json}

@[simp] theorem get?_eq_lookup (fields : Fields) (key : Text) : get? fields key = fields.lookup key := rfl

@[simp] theorem lookup_put (fields : Fields) (key : Text) (value : Json) :
    (fields.put key value).lookup key = some value := by
  induction fields with
  | nil => simp [put]
  | cons field rest ih =>
    rcases field with ⟨name, old⟩
    by_cases same : name = key
    · simp [put, same]
    · have apart : (key == name) = false := by simpa using fun equal => same (Eq.symm equal)
      simp [put, same, List.lookup_cons, apart, ih]

theorem lookup_put_of_ne (apart : other ≠ key) (fields : Fields) (value : Json) :
    (fields.put key value).lookup other = fields.lookup other := by
  induction fields with
  | nil => simp [put, apart]
  | cons field rest ih =>
    rcases field with ⟨name, old⟩
    by_cases same : name = key
    · subst same
      have differ : (other == name) = false := by simpa using apart
      simp [put, List.lookup_cons, differ]
    · simp [put, same, List.lookup_cons, ih]

theorem put_of_lookup (found : fields.lookup key = some value) : fields.put key value = fields := by
  induction fields with
  | nil => cases found
  | cons field rest ih =>
    rcases field with ⟨name, old⟩
    by_cases same : name = key
    · subst same
      simp only [List.lookup_cons, beq_self_eq_true] at found
      cases Option.some.inj found
      simp [put]
    · have apart : (key == name) = false := by simpa using fun equal => same (Eq.symm equal)
      simp only [List.lookup_cons, apart] at found
      simp [put, same, ih found]

theorem put_put (fields : Fields) (key : Text) (first second : Json) :
    (fields.put key first).put key second = fields.put key second := by
  induction fields with
  | nil => simp [put]
  | cons field rest ih =>
    rcases field with ⟨one, old⟩
    by_cases same : one = key <;> simp [put, same, ih]

-- A field that is there keeps its place, so another one may as well be put after it.
theorem put_comm (there : (fields.lookup key).isSome) (apart : key ≠ other) (first second : Json) :
    (fields.put other first).put key second = (fields.put key second).put other first := by
  induction fields with
  | nil => cases there
  | cons field rest ih =>
    rcases field with ⟨one, old⟩
    by_cases atKey : one = key
    · subst atKey
      simp [put, apart]
    · have later : (rest.lookup key).isSome := by
        have skipped : (key == one) = false := by simpa using fun equal => atKey (Eq.symm equal)
        simpa [List.lookup_cons, skipped] using there
      by_cases atOther : one = other
      · subst atOther
        simp [put, atKey]
      · simp [put, atKey, atOther, ih later]

theorem mem_keys_put {name : Text} : name ∈ (fields.put key value).map Prod.fst ↔ name = key ∨ name ∈ fields.map Prod.fst := by
  rw [← lookup_isSome_iff_mem, ← lookup_isSome_iff_mem]
  by_cases same : name = key
  · simp [same]
  · simp [lookup_put_of_ne same, same]

theorem nodup_put (distinct : (fields.map Prod.fst).Nodup) : ((fields.put key value).map Prod.fst).Nodup := by
  induction fields with
  | nil => simp [put]
  | cons field rest ih =>
    rcases field with ⟨name, old⟩
    simp only [List.map_cons, List.nodup_cons] at distinct
    by_cases same : name = key
    · subst same
      simpa [put] using distinct
    · simp only [put, same, if_false, List.map_cons, List.nodup_cons]
      refine ⟨?_, ih distinct.2⟩
      rw [mem_keys_put]
      rintro (equal | member)
      · exact same equal
      · exact distinct.1 member

theorem mem_put {field : Text × Json} (member : field ∈ fields.put key value) : field = (key, value) ∨ field ∈ fields := by
  induction fields with
  | nil => simpa [put] using member
  | cons first rest ih =>
    rcases first with ⟨name, old⟩
    by_cases same : name = key
    · simp only [put, same, if_true, List.mem_cons] at member
      rcases member with rfl | member
      · exact .inl rfl
      · exact .inr (List.mem_cons_of_mem _ member)
    · simp only [put, same, if_false, List.mem_cons] at member
      rcases member with rfl | member
      · exact .inr (List.mem_cons_self ..)
      · exact (ih member).imp_right (List.mem_cons_of_mem _)

end Fields

end ChangeCapture
