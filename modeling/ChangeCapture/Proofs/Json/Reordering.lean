import ChangeCapture.Proofs.Json.RoundTrip

namespace ChangeCapture.Json

variable {one other document : Json} {items others : List Json} {fields : Fields}

mutual
-- Whether two documents are equal up to the order of the fields of their objects. A
-- truth value is no number, and lists keep their order.
def isReordering : Json → Json → Bool
  | .null, .null => true
  | .bool a, .bool b => a = b
  | .int m, .int n => m = n
  | .double x, .double y => x = y
  | .text s, .text t => s = t
  | .list items, .list others => areReorderings items others
  | .object fields, .object others => fields.length = others.length && reordersFields fields others
  | _, _ => false

def areReorderings : List Json → List Json → Bool
  | [], [] => true
  | item :: rest, other :: others => isReordering item other && areReorderings rest others
  | _, _ => false

def reordersFields : List (Text × Json) → List (Text × Json) → Bool
  | [], _ => true
  | (name, value) :: rest, others =>
    (match others.lookup name with
      | some other => isReordering value other
      | none => false) && reordersFields rest others
end

theorem reordersFields_iff {others : Fields} : reordersFields fields others ↔
    ∀ field ∈ fields, ∃ value, others.lookup field.1 = some value ∧ isReordering field.2 value := by
  induction fields with
  | nil => simp [reordersFields]
  | cons field rest ih =>
    rw [reordersFields, Bool.and_eq_true, ih, List.forall_mem_cons]
    cases others.lookup field.1 <;> simp

theorem isReordering_object_iff {others : Fields} :
    isReordering (.object fields) (.object others) ↔ fields.length = others.length ∧
      ∀ field ∈ fields, ∃ value, others.lookup field.1 = some value ∧ isReordering field.2 value := by
  rw [isReordering, Bool.and_eq_true, decide_eq_true_iff, reordersFields_iff]

theorem areReorderings_iff
    (each : ∀ item ∈ items, ∀ other, other.Distinct → (isReordering item other ↔ item.canonical = other.canonical))
    (distinct : ∀ other ∈ others, other.Distinct) :
    areReorderings items others ↔ items.map canonical = others.map canonical := by
  induction items generalizing others with
  | nil => cases others <;> simp [areReorderings]
  | cons item rest ih =>
    cases others with
    | nil => simp [areReorderings]
    | cons other others =>
      have first := each item (List.mem_cons_self ..) other (distinct other (List.mem_cons_self ..))
      have later := ih (fun item member => each item (List.mem_cons_of_mem _ member))
        fun other member => distinct other (List.mem_cons_of_mem _ member)
      simp [areReorderings, first, later]

theorem canonicalObject_eq_iff {others : Fields} (distinct : (fields.map Prod.fst).Nodup)
    (distinctOthers : (others.map Prod.fst).Nodup) :
    canonicalObject fields = canonicalObject others ↔ fields.length = others.length ∧
      ∀ field ∈ fields, ∃ value, others.lookup field.1 = some value ∧ field.2.canonical = value.canonical := by
  constructor
  · intro same
    have count := (keys_canonicalObject fields).length_eq.symm.trans
      ((congrArg (fun fields => (fields.map Prod.fst).length) same).trans (keys_canonicalObject others).length_eq)
    refine ⟨by simpa using count, fun field member => ?_⟩
    have found := lookup_canonicalObject distinct field.1
    rw [lookup_of_mem distinct member, same, lookup_canonicalObject distinctOthers] at found
    obtain ⟨value, there, form⟩ := Option.map_eq_some_iff.mp found
    exact ⟨value, there, form.symm⟩
  · rintro ⟨count, each⟩
    -- With as many names, the names of the one are all names of the other.
    have names : (fields.map Prod.fst).Perm (others.map Prod.fst) := by
      refine (List.subperm_of_subset distinct fun name member => ?_).perm_of_length_le (by simp [count])
      obtain ⟨field, present, rfl⟩ := List.mem_map.mp member
      obtain ⟨value, there, -⟩ := each field present
      exact List.mem_map.mpr ⟨_, mem_of_lookup there, rfl⟩
    have found : ∀ key, (fields.map fun field => (field.1, field.2.canonical)).lookup key =
        (others.map fun field => (field.1, field.2.canonical)).lookup key := by
      intro key
      rw [lookup_map_value, lookup_map_value]
      cases there : fields.lookup key with
      | none =>
        rw [lookup_eq_none_iff_not_mem, names.mem_iff] at there
        rw [lookup_eq_none_iff_not_mem.mpr there]
      | some value =>
        obtain ⟨other, present, form⟩ := each (key, value) (mem_of_lookup there)
        rw [present, Option.map_some, Option.map_some, form]
    have keys : ∀ fields : Fields, (fields.map fun field => (field.1, field.2.canonical)).map Prod.fst = fields.map Prod.fst :=
      fun fields => by simp
    rw [canonicalObject, canonicalObject]
    refine Text.sort_by_key (by rwa [keys]) (perm_of_lookup (by rwa [keys]) (by rwa [keys]) found)

theorem isReordering_iff (distinct : one.Distinct) (distinctOther : other.Distinct) :
    isReordering one other ↔ one.canonical = other.canonical := by
  induction one using Json.induct generalizing other with
  | null | bool | int | double | text => cases other <;> simp [isReordering, canonical]
  | list items ih =>
    cases other with
    | list others =>
      have each := distinct_list.mp distinct
      have eachOther := distinct_list.mp distinctOther
      have items := areReorderings_iff (fun item member other => ih item member (each item member)) eachOther
      simpa [isReordering, canonical_list] using items
    | _ => simp [isReordering, canonical]
  | object fields ih =>
    cases other with
    | object others =>
      obtain ⟨keys, each⟩ := distinct_object.mp distinct
      obtain ⟨keysOther, eachOther⟩ := distinct_object.mp distinctOther
      rw [isReordering_object_iff, canonical_object, canonical_object, Json.object.injEq,
        canonicalObject_eq_iff keys keysOther]
      refine and_congr_right fun _ => forall₂_congr fun field member => exists_congr fun value => ?_
      refine and_congr_right fun there => ?_
      exact ih field member (each field member) (eachOther (field.1, value) (mem_of_lookup there))
    | _ => simp [isReordering, canonical]

theorem read_write_storable (storable : document.Storable) : Json.read document.write = .ok document.canonical := by
  rw [read_write storable.readable, returned_of_exact storable.exact]

-- A document that is written is read back as it was up to the order of fields, and written
-- again it has the same text; two documents have one text exactly when one is such a reordering
-- of the other.
theorem written_documents (storable : one.Storable) (storableOther : other.Storable) :
    (∃ back, Json.read one.write = .ok back ∧ back.isReordering one ∧ back.write = one.write) ∧
      (one.write = other.write ↔ one.isReordering other) := by
  have distinct := storable.readable.distinct
  have read := read_write_storable storable
  have ofBack := (storable_canonical storable).readable.distinct
  have again := canonical_canonical one
  refine ⟨⟨_, read, (isReordering_iff ofBack distinct).mpr again, write_congr again⟩, ?_⟩
  rw [isReordering_iff distinct storableOther.readable.distinct]
  refine ⟨fun same => ?_, write_congr⟩
  rw [same, read_write_storable storableOther] at read
  exact (Except.ok.inj read).symm

def sampleText : Json := .text [.char '"', .char '\\', .char '\n', .ofNat 1, .ofNat 0x7F, .surrogate 5]

def sample : Json := .object [("b", .list [.bool true, .int 1]), ("a", sampleText)]

def reorderedSample : Json := .object [("a", sampleText), ("b", .list [.bool true, .int 1])]

def changedSample : Json := .object [("b", .list [.int 1, .int 1]), ("a", sampleText)]

theorem written_samples : sample.Storable ∧ reorderedSample.Storable ∧ changedSample.Storable ∧
    (∃ back, Json.read sample.write = .ok back ∧ back.isReordering sample ∧ back.write = sample.write) ∧
    sample.write = reorderedSample.write ∧ sample.write ≠ changedSample.write := by
  have ofSample : sample.Storable := ⟨by decide +kernel, by decide +kernel⟩
  have ofReordered : reorderedSample.Storable := ⟨by decide +kernel, by decide +kernel⟩
  have ofChanged : changedSample.Storable := ⟨by decide +kernel, by decide +kernel⟩
  obtain ⟨back, same⟩ := written_documents ofSample ofReordered
  obtain ⟨-, apart⟩ := written_documents ofSample ofChanged
  exact ⟨ofSample, ofReordered, ofChanged, back, same.mpr (by decide +kernel),
    fun equal => absurd (apart.mp equal) (by decide +kernel)⟩

end ChangeCapture.Json
