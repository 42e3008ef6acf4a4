import ChangeCapture.Proofs.Flow.Storing

namespace ChangeCapture

open Json (Storable Distinct canonical canonicalObject canonical_object canonical_list distinct_object distinct_list)

namespace Json

variable {document value : Json} {fields inner : Fields} {items : List Json} {key text : Text}

theorem canonical_eq_text_iff : canonical document = .text text ↔ document = .text text := by
  cases document with
  | list items => simp [canonical_list]
  | object fields => simp [canonical_object]
  | null | bool | int | double | text => rfl

theorem canonical_eq_list_iff : canonical document = .list items ↔ ∃ given, document = .list given ∧ given.map canonical = items := by
  cases document with
  | list given => simp [canonical_list]
  | object fields => simp [canonical_object]
  | null | bool | int | double | text => simp [canonical]

theorem canonical_eq_object_iff :
    canonical document = .object inner ↔ ∃ given, document = .object given ∧ canonicalObject given = inner := by
  cases document with
  | list items => simp [canonical_list]
  | object given => simp [canonical_object]
  | null | bool | int | double | text => simp [canonical]

theorem Distinct.lookup (distinct : Distinct (.object fields)) (found : fields.lookup key = some value) : Distinct value :=
  inherited_distinct.lookup distinct found

theorem Distinct.field? (distinct : Distinct document) (found : document.field? key = some value) : Distinct value := by
  obtain ⟨fields, rfl, there⟩ := field?_eq_some_iff.mp found
  exact distinct.lookup there

-- A look-up in the canonical form finds the canonical form of what is looked up.

theorem Distinct.lookup_canonical (distinct : Distinct (.object fields)) (key : Text) :
    (canonicalObject fields).lookup key = (fields.lookup key).map canonical :=
  lookup_canonicalObject (distinct_object.mp distinct).1 key

theorem Distinct.field?_canonical (distinct : Distinct document) (key : Text) :
    document.canonical.field? key = (document.field? key).map canonical := by
  cases document with
  | object fields =>
    rw [canonical_object]
    exact distinct.lookup_canonical key
  | list items =>
    rw [canonical_list]
    rfl
  | null | bool | int | double | text => rfl

theorem Distinct.lookup_text_canonical_iff (distinct : Distinct (.object fields)) :
    (canonicalObject fields).lookup key = some (.text text) ↔ fields.lookup key = some (.text text) := by
  rw [distinct.lookup_canonical]
  simp [canonical_eq_text_iff]

theorem Distinct.lookup_list_canonical_iff (distinct : Distinct (.object fields)) :
    (canonicalObject fields).lookup key = some (.list items) ↔
      ∃ given, fields.lookup key = some (.list given) ∧ given.map canonical = items := by
  rw [distinct.lookup_canonical]
  simp only [Option.map_eq_some_iff, canonical_eq_list_iff]
  grind

theorem Distinct.lookup_object_canonical_iff (distinct : Distinct (.object fields)) :
    (canonicalObject fields).lookup key = some (.object inner) ↔
      ∃ given, fields.lookup key = some (.object given) ∧ canonicalObject given = inner := by
  rw [distinct.lookup_canonical]
  simp only [Option.map_eq_some_iff, canonical_eq_object_iff]
  grind

end Json

namespace Part

variable {item : Json} {items : List Json} {id : Text} {fields : Fields}

theorem id?_canonical (distinct : Distinct item) : id? item.canonical = (id? item).map canonical := distinct.field?_canonical _

theorem id?_canonical_iff (distinct : Distinct item) : id? item.canonical = some (.text id) ↔ id? item = some (.text id) := by
  rw [id?_canonical distinct]
  simp [Json.canonical_eq_text_iff]

theorem hasId_canonical (distinct : Distinct item) : hasId id item.canonical = hasId id item := by
  rw [Bool.eq_iff_iff, hasId_iff_id?, hasId_iff_id?, id?_canonical_iff distinct]

theorem find?_canonical (each : ∀ item ∈ items, Distinct item) (id : Text) :
    find? (items.map canonical) id = (find? items id).map canonicalObject := by
  have same : (items.map canonical).find? (hasId id) = (items.find? (hasId id)).map canonical := by
    induction items with
    | nil => rfl
    | cons first rest ih =>
      rw [List.map_cons, List.find?_cons, List.find?_cons, hasId_canonical (each first (List.mem_cons_self ..)),
        ih fun item member => each item (List.mem_cons_of_mem _ member)]
      split <;> rfl
  unfold find?
  rw [same]
  cases found : items.find? (hasId id) with
  | none => rfl
  | some item =>
    obtain ⟨fields, rfl, -⟩ := hasId_iff.mp (List.find?_some found)
    rw [Option.map_some, canonical_object]
    rfl

theorem end?_canonical (distinct : Distinct item) (side : Text) : Part.end? item.canonical side = (Part.end? item side).map canonical := by
  unfold end?
  rw [distinct.field?_canonical]
  cases found : item.field? side with
  | none => rfl
  | some ending => exact (distinct.field? found).field?_canonical _

theorem edge?_canonical_iff (distinct : Distinct item) {edge : FlowTemplate.Edge} :
    edge? item.canonical = some edge ↔ edge? item = some edge := by
  simp only [edge?_eq_some_iff, id?_canonical_iff distinct, end?_canonical distinct, Option.map_eq_some_iff,
    Json.canonical_eq_text_iff, exists_eq_right]

theorem canonical_replaceFirst {new : Fields} (found : find? items id = some fields)
    (same : canonical (.object new) = canonical (.object fields)) :
    canonical (.list (replaceFirst id new items)) = canonical (.list items) := by
  rw [find?_eq_some_iff] at found
  rw [canonical_list, canonical_list]
  apply congrArg _
  induction items with
  | nil => rfl
  | cons first rest ih =>
    by_cases here : hasId id first
    · simp only [List.find?_cons, here, Option.some.injEq] at found
      rw [replaceFirst, if_pos here, List.map_cons, List.map_cons, same, found]
    · simp only [List.find?_cons, here] at found
      simp [replaceFirst, here, ih found]

end Part

namespace Projection

variable {registry : Registry} {specs : List Spec} {target : Option Text} {contents properties : Fields}
  {processors connections services : List Json} {key name value id : Text} {entry : Entry} {spec? : Option Spec}

theorem map_perm_iff {α β γ : Type} {one other : α → β} {form : γ → β} {items : List α} {expected : List γ}
    (same : ∀ item ∈ items, ∀ found, one item = form found ↔ other item = form found) :
    (items.map one).Perm (expected.map form) ↔ (items.map other).Perm (expected.map form) := by
  have read : ∀ {one other : α → β}, (∀ item ∈ items, ∀ found, one item = form found → other item = form found) →
      (items.map one).Perm (expected.map form) → (items.map other).Perm (expected.map form) := by
    intro one other same perm
    obtain ⟨found, listed, order⟩ := exists_map_of_perm perm
    have alike : items.map other = items.map one := by
      refine List.map_congr_left fun item member => ?_
      have ofOne : one item ∈ found.map form := listed ▸ List.mem_map_of_mem member
      obtain ⟨value, -, own⟩ := List.mem_map.mp ofOne
      exact (same item member value own.symm).trans own
    rw [alike]
    exact perm
  exact ⟨read fun item member found => (same item member found).mp, read fun item member found => (same item member found).mpr⟩

theorem hasProcessors_canonical_iff (each : ∀ processor ∈ processors, Distinct processor) :
    HasProcessors (processors.map canonical) ↔ HasProcessors processors := by
  unfold HasProcessors
  rw [List.map_map]
  exact map_perm_iff fun processor member id => Part.id?_canonical_iff (each processor member)

theorem hasConnections_canonical_iff (each : ∀ connection ∈ connections, Distinct connection) :
    HasConnections (connections.map canonical) ↔ HasConnections connections := by
  unfold HasConnections
  rw [List.map_map]
  exact map_perm_iff fun connection member edge => Part.edge?_canonical_iff (each connection member)

theorem hasServices_canonical_iff (each : ∀ service ∈ services, Distinct service) :
    HasServices (services.map canonical) ↔ HasServices services := by
  simp only [HasServices, Part.find?_canonical each, Option.isSome_map]

theorem hasQueries_canonical_iff (distinct : Distinct (.object properties)) :
    HasQueries registry (canonicalObject properties) ↔ HasQueries registry properties := by
  have keys : ∀ key, key ∈ (canonicalObject properties).map Prod.fst ↔ key ∈ properties.map Prod.fst :=
    fun key => (Json.keys_canonicalObject properties).mem_iff
  constructor
  · intro held
    exact ⟨fun key entry found => distinct.lookup_text_canonical_iff.mp (held.queries key entry found),
      fun key member => held.others key ((keys key).mpr member)⟩
  · intro held
    exact ⟨fun key entry found => distinct.lookup_text_canonical_iff.mpr (held.queries key entry found),
      fun key member => held.others key ((keys key).mp member)⟩

theorem hasProperty_canonical_iff (each : ∀ processor ∈ processors, Distinct processor) :
    HasProperty (processors.map canonical) id name value ↔ HasProperty processors id name value := by
  unfold HasProperty
  simp only [Part.find?_canonical each, Option.map_eq_some_iff]
  constructor
  · rintro ⟨_, _, ⟨fields, found, rfl⟩, given, there⟩
    have ofPart := kept_of_find? each found
    obtain ⟨properties, own, rfl⟩ := ofPart.lookup_object_canonical_iff.mp given
    exact ⟨fields, properties, found, own, (ofPart.lookup own).lookup_text_canonical_iff.mp there⟩
  · rintro ⟨fields, properties, found, own, there⟩
    have ofPart := kept_of_find? each found
    exact ⟨_, _, ⟨fields, found, rfl⟩, ofPart.lookup_object_canonical_iff.mpr ⟨properties, own, rfl⟩,
      (ofPart.lookup own).lookup_text_canonical_iff.mpr there⟩

theorem boundBy_canonical_iff (each : ∀ processor ∈ processors, Distinct processor) :
    BoundBy key entry spec? (processors.map canonical) ↔ BoundBy key entry spec? processors := by
  have same : ∀ id name value, HasProperty (processors.map canonical) id name value ↔ HasProperty processors id name value :=
    fun id name value => hasProperty_canonical_iff each
  constructor
  · rintro ⟨ofKey, index, idField, watermark, operation⟩
    simp only [same] at ofKey index idField watermark operation
    exact ⟨ofKey, index, idField, watermark, operation⟩
  · rintro ⟨ofKey, index, idField, watermark, operation⟩
    simp only [← same] at ofKey index idField watermark operation
    exact ⟨ofKey, index, idField, watermark, operation⟩

theorem steady_canonical_iff (distinct : Distinct (.object contents)) :
    Steady registry specs key (canonicalObject contents) ↔ Steady registry specs key contents := by
  have items : ∀ {name given}, contents.lookup name = some (.list given) → ∀ item ∈ given, Distinct item :=
    fun listed => distinct_list.mp (distinct.lookup listed)
  constructor
  · rintro ⟨⟨_, ofProcessors, chain, entry, there, bound⟩, ⟨_, ofConnections, links⟩,
      ⟨_, _, _, ofServices, complete, found, given, held⟩⟩
    obtain ⟨processors, listedProcessors, rfl⟩ := distinct.lookup_list_canonical_iff.mp ofProcessors
    obtain ⟨connections, listedConnections, rfl⟩ := distinct.lookup_list_canonical_iff.mp ofConnections
    obtain ⟨services, listedServices, rfl⟩ := distinct.lookup_list_canonical_iff.mp ofServices
    rw [Part.find?_canonical (items listedServices), Option.map_eq_some_iff] at found
    obtain ⟨service, found, rfl⟩ := found
    have ofService := kept_of_find? (items listedServices) found
    obtain ⟨properties, own, rfl⟩ := ofService.lookup_object_canonical_iff.mp given
    exact ⟨⟨processors, listedProcessors, (hasProcessors_canonical_iff (items listedProcessors)).mp chain, entry, there,
        (boundBy_canonical_iff (items listedProcessors)).mp bound⟩,
      ⟨connections, listedConnections, (hasConnections_canonical_iff (items listedConnections)).mp links⟩,
      ⟨services, service, properties, listedServices, (hasServices_canonical_iff (items listedServices)).mp complete, found, own,
        (hasQueries_canonical_iff (ofService.lookup own)).mp held⟩⟩
  · rintro ⟨⟨processors, listedProcessors, chain, entry, there, bound⟩, ⟨connections, listedConnections, links⟩,
      ⟨services, service, properties, listedServices, complete, found, own, held⟩⟩
    have ofService := kept_of_find? (items listedServices) found
    have foundForm : Part.find? (services.map canonical) FlowTemplate.lookupService = some (canonicalObject service) := by
      rw [Part.find?_canonical (items listedServices), found]
      rfl
    exact ⟨⟨_, distinct.lookup_list_canonical_iff.mpr ⟨processors, listedProcessors, rfl⟩,
        (hasProcessors_canonical_iff (items listedProcessors)).mpr chain, entry, there,
        (boundBy_canonical_iff (items listedProcessors)).mpr bound⟩,
      ⟨_, distinct.lookup_list_canonical_iff.mpr ⟨connections, listedConnections, rfl⟩,
        (hasConnections_canonical_iff (items listedConnections)).mpr links⟩,
      ⟨_, _, _, distinct.lookup_list_canonical_iff.mpr ⟨services, listedServices, rfl⟩,
        (hasServices_canonical_iff (items listedServices)).mpr complete, foundForm,
        ofService.lookup_object_canonical_iff.mpr ⟨properties, own, rfl⟩,
        (hasQueries_canonical_iff (ofService.lookup own)).mpr held⟩⟩

theorem Steady.of_canonical {other : Fields} (steady : Steady registry specs key contents) (distinct : Distinct (.object contents))
    (distinctOther : Distinct (.object other)) (same : canonicalObject contents = canonicalObject other) :
    Steady registry specs key other := by
  have form := (steady_canonical_iff distinct).mpr steady
  rw [same] at form
  exact (steady_canonical_iff distinctOther).mp form

theorem Settled.canonical (settled : Settled registry specs key contents) (storable : Storable (.object contents)) :
    Settled registry specs key (canonicalObject contents) := by
  obtain ⟨-, -, -, entry, spec, there, listed, -⟩ := settled.processors
  have steady := (steady_canonical_iff storable.readable.distinct).mpr settled.steady
  refine steady.settled fun other found => ⟨spec, ?_⟩
  cases there.symm.trans found
  exact listed

theorem Settled.of_lookup {other : List Spec} (settled : Settled registry specs key contents)
    (same : ∀ name, (byTable specs).lookup name = (byTable other).lookup name) : Settled registry other key contents where
  processors := by
    obtain ⟨processors, given, chain, entry, spec, there, listed, bound⟩ := settled.processors
    exact ⟨processors, given, chain, entry, spec, there, (same _).symm.trans listed, bound⟩
  connections := settled.connections
  services := settled.services

-- A look-up that has the registry's queries is given them once more, which no written form
-- of the contents shows.
theorem canonical_resynced {service : Fields} (distinct : (registry.map Prod.fst).Nodup) (names : Distinct (.object contents))
    (listed : contents.lookup ("controllerServices" : Text) = some (.list services))
    (found : Part.find? services FlowTemplate.lookupService = some service)
    (inner : service.lookup ("properties" : Text) = some (.object properties)) (held : HasQueries registry properties) :
    canonical (.object (contents.put "controllerServices" (.list (Part.replaceFirst FlowTemplate.lookupService
      (service.put "properties" (.object (syncedProperties registry properties))) services)))) = canonical (.object contents) := by
  have ofService := kept_of_find? (distinct_list.mp (names.lookup listed)) found
  have unique := (distinct_object.mp (ofService.lookup inner)).1
  have sameProperties := Json.canonical_of_perm (nodup_syncedProperties unique) (syncedProperties_perm distinct unique held)
  have sameServices := Part.canonical_replaceFirst found (Json.canonical_put inner sameProperties)
  exact Json.canonical_put listed sameServices

-- A steady flow is left alone but for the order of fields, which is not written.
theorem project_of_steady {fields : Fields} (distinct : (registry.map Prod.fst).Nodup) (target : Option Text)
    (given : fields.lookup ("flowContents" : Text) = some (.object contents)) (steady : Steady registry specs key contents)
    (names : Json.Distinct (.object contents)) : ∃ flow, project registry specs target (.object fields) = .done ⟨flow, key⟩ ∧
      flow.canonical = canonical (.object fields) := by
  obtain ⟨services, service, properties, listed, found, inner, held, synced⟩ := syncContents_of_steady distinct target steady
  have sameContents := canonical_resynced distinct names listed found inner held
  refine ⟨_, ?_, Json.canonical_put given sameContents⟩
  simp only [project, startFlow, Repaired.done_bind, Fields.get?_eq_lookup, given, synced]
  rfl

end Projection

end ChangeCapture
