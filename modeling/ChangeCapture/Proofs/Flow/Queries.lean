import ChangeCapture.Flow.Projection
import ChangeCapture.Proofs.Flow.Parts
import ChangeCapture.Proofs.Flow.Repair
import ChangeCapture.Proofs.Registry.Building

namespace ChangeCapture.Projection

variable {registry : Registry} {properties service : Fields} {services : List Json} {name : Text}

structure HasQueries (registry : Registry) (properties : Fields) : Prop where
  queries : ∀ key entry, registry.lookup key = some entry → properties.lookup key = some (.text entry.sql)
  others : ∀ key ∈ properties.map Prod.fst, SqlId.isShaped key → key ∈ registry.map Prod.fst

theorem lookup_unshaped (properties : Fields) (name : Text) :
    (properties.filter fun field => !SqlId.isShaped field.1).lookup name =
      if SqlId.isShaped name then none else properties.lookup name := by
  induction properties with
  | nil => simp
  | cons field rest ih =>
    rcases field with ⟨key, value⟩
    by_cases shaped : SqlId.isShaped key
    · rw [List.filter_cons_of_neg (by simp [shaped]), ih, List.lookup_cons]
      split
      · rfl
      · rename_i unshaped
        have apart : (name == key) = false := by
          rw [beq_eq_false_iff_ne]
          intro same
          subst same
          exact unshaped shaped
        rw [apart]
    · rw [List.filter_cons_of_pos (by simp [shaped]), List.lookup_cons, List.lookup_cons, ih]
      split
      · rename_i same
        rw [beq_iff_eq] at same
        simp [same, shaped]
      · rfl

theorem lookup_puts (distinct : (registry.map Prod.fst).Nodup) (fields : Fields) (name : Text) :
    (registry.foldl (fun synced item => synced.put item.1 (.text item.2.sql)) fields).lookup name =
      ((registry.lookup name).map fun entry => Json.text entry.sql).or (fields.lookup name) := by
  induction registry generalizing fields with
  | nil => simp
  | cons item rest ih =>
    rcases item with ⟨key, entry⟩
    simp only [List.map_cons, List.nodup_cons] at distinct
    rw [List.foldl_cons, ih distinct.2]
    by_cases same : name = key
    · subst same
      have absent := lookup_eq_none_iff_not_mem.mpr distinct.1
      simp [absent]
    · have apart : (name == key) = false := by simpa using same
      simp [List.lookup_cons, apart, Fields.lookup_put_of_ne same]

-- The registry decides about its own name space, the flow about all other names.
theorem lookup_syncedProperties (distinct : (registry.map Prod.fst).Nodup) (properties : Fields) (name : Text) :
    (syncedProperties registry properties).lookup name =
      ((registry.lookup name).map fun entry => Json.text entry.sql).or
        (if SqlId.isShaped name then none else properties.lookup name) := by
  rw [syncedProperties, lookup_puts distinct, lookup_unshaped]

theorem hasQueries_synced (distinct : (registry.map Prod.fst).Nodup) (properties : Fields) :
    HasQueries registry (syncedProperties registry properties) := by
  constructor
  · intro key entry found
    simp [lookup_syncedProperties distinct, found]
  · intro key member shaped
    rw [← lookup_isSome_iff_mem, lookup_syncedProperties distinct, if_pos shaped, Option.or_none, Option.isSome_map] at member
    exact lookup_isSome_iff_mem.mp member

theorem nodup_puts (fields : Fields) (distinct : (fields.map Prod.fst).Nodup) :
    ((registry.foldl (fun synced item => synced.put item.1 (.text item.2.sql)) fields).map Prod.fst).Nodup := by
  induction registry generalizing fields with
  | nil => exact distinct
  | cons item rest ih => exact ih _ (Fields.nodup_put distinct)

theorem nodup_syncedProperties (distinct : (properties.map Prod.fst).Nodup) :
    ((syncedProperties registry properties).map Prod.fst).Nodup :=
  nodup_puts _ (distinct.sublist (List.filter_sublist.map _))

theorem unshaped_put (shaped : SqlId.isShaped name) (fields : Fields) (value : Json) :
    (fields.put name value).filter (fun field => !SqlId.isShaped field.1) =
      fields.filter fun field => !SqlId.isShaped field.1 := by
  induction fields with
  | nil => simp [Fields.put, shaped]
  | cons field rest ih =>
    rcases field with ⟨key, old⟩
    by_cases same : key = name
    · subst same
      simp [Fields.put, shaped]
    · simp only [Fields.put, same, if_false, List.filter_cons, ih]

theorem unshaped_puts (shaped : ∀ key ∈ registry.map Prod.fst, SqlId.isShaped key) (fields : Fields) :
    (registry.foldl (fun synced item => synced.put item.1 (.text item.2.sql)) fields).filter
      (fun field => !SqlId.isShaped field.1) = fields.filter fun field => !SqlId.isShaped field.1 := by
  induction registry generalizing fields with
  | nil => rfl
  | cons item rest ih =>
    obtain ⟨first, later⟩ := List.forall_mem_cons.mp shaped
    rw [List.foldl_cons, ih later, unshaped_put first]

theorem syncedProperties_syncedProperties {former : Registry} (shaped : ∀ key ∈ former.map Prod.fst, SqlId.isShaped key)
    (registry : Registry) (properties : Fields) :
    syncedProperties registry (syncedProperties former properties) = syncedProperties registry properties := by
  have kept : (syncedProperties former properties).filter (fun field => !SqlId.isShaped field.1) =
      properties.filter fun field => !SqlId.isShaped field.1 := by
    rw [syncedProperties, unshaped_puts shaped, List.filter_filter]
    simp only [Bool.and_self]
  rw [syncedProperties, kept, syncedProperties]

theorem repairs_syncLookup_eq_nil_iff (distinct : (registry.map Prod.fst).Nodup) :
    (syncLookup registry service).repairs = [] ↔ HasQueries registry (Part.properties service) := by
  rw [syncLookup, List.append_eq_nil_iff, removals, List.map_eq_nil_iff, List.filter_eq_nil_iff, List.filterMap_eq_nil_iff]
  constructor
  · intro held
    obtain ⟨stale, current⟩ := held
    constructor
    · intro key entry found
      have kept := current (key, entry) (mem_of_lookup found)
      unfold lookupRepair? at kept
      grind
    · intro key member shaped
      have known := stale key (Text.mem_sorted.mpr member)
      simp only [Bool.and_eq_true, Bool.not_eq_true', not_and, Bool.not_eq_false] at known
      exact Registry.has_iff.mp (known shaped)
  · intro held
    constructor
    · intro key member
      have present := held.others key (Text.mem_sorted.mp member)
      simp only [Bool.and_eq_true, Bool.not_eq_true', not_and, Bool.not_eq_false]
      exact fun shaped => Registry.has_iff.mpr (present shaped)
    · intro item member
      have there := held.queries item.1 item.2 (lookup_of_mem distinct member)
      simp [lookupRepair?, there]

-- A look-up that has the registry's queries is given them once more, which at most moves
-- them behind the other properties.
theorem syncLookup_of_hasQueries (distinct : (registry.map Prod.fst).Nodup)
    (held : HasQueries registry (Part.properties service)) : syncLookup registry service =
      .done (service.put "properties" (.object (syncedProperties registry (Part.properties service)))) := by
  have silent := (repairs_syncLookup_eq_nil_iff distinct).mpr held
  simp only [syncLookup] at silent
  simp [syncLookup, silent, Repaired.done]

theorem syncedProperties_perm (distinct : (registry.map Prod.fst).Nodup) (unique : (properties.map Prod.fst).Nodup)
    (held : HasQueries registry properties) : (syncedProperties registry properties).Perm properties := by
  apply perm_of_lookup (nodup_syncedProperties unique) unique
  intro key
  rw [lookup_syncedProperties distinct]
  cases found : registry.lookup key with
  | some entry => simp [held.queries key entry found]
  | none =>
    by_cases shaped : SqlId.isShaped key
    · have absent : key ∉ properties.map Prod.fst := fun member =>
        lookup_eq_none_iff_not_mem.mp found (held.others key member shaped)
      simp [shaped, lookup_eq_none_iff_not_mem.mpr absent]
    · simp [shaped]

end ChangeCapture.Projection
