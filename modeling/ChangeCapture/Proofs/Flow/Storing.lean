import ChangeCapture.Proofs.Flow.Settled
import ChangeCapture.Proofs.Json.Storable

namespace ChangeCapture

namespace Json

-- What is true of a list or an object just when it is true of all that is inside, and
-- of every document that can be stored.
structure Inherited (kept : Json → Prop) : Prop where
  list : ∀ {items}, kept (.list items) ↔ ∀ item ∈ items, kept item
  object : ∀ {fields : Fields}, kept (.object fields) ↔ (fields.map Prod.fst).Nodup ∧ ∀ field ∈ fields, kept field.2
  stored : ∀ {document}, Storable document → kept document

theorem inherited_storable : Inherited Storable := ⟨storable_list, storable_object, id⟩

theorem inherited_readable : Inherited Readable := ⟨readable_list, readable_object, Storable.readable⟩

theorem inherited_distinct : Inherited Distinct := ⟨distinct_list, distinct_object, fun storable => storable.readable.distinct⟩

namespace Inherited

variable {kept : Json → Prop} {fields : Fields} {key : Text} {value : Json}

theorem lookup (rule : Inherited kept) (whole : kept (.object fields)) (found : fields.lookup key = some value) : kept value :=
  (rule.object.mp whole).2 _ (mem_of_lookup found)

theorem put (rule : Inherited kept) (whole : kept (.object fields)) (new : kept value) :
    kept (.object (fields.put key value)) := by
  obtain ⟨distinct, each⟩ := rule.object.mp whole
  refine rule.object.mpr ⟨Fields.nodup_put distinct, fun field member => ?_⟩
  rcases Fields.mem_put member with rfl | member
  · exact new
  · exact each field member

theorem items (rule : Inherited kept) {given : Option Json} (whole : ∀ value ∈ given, kept value) :
    ∀ item ∈ Part.items given, kept item := by
  cases given with
  | none => exact fun item member => absurd member List.not_mem_nil
  | some value =>
    cases value with
    | list items => exact rule.list.mp (whole _ rfl)
    | null | bool | int | double | text | object => exact fun item member => absurd member List.not_mem_nil

theorem properties (rule : Inherited kept) (whole : kept (.object fields)) : kept (.object (Part.properties fields)) := by
  have none : Storable (.object []) := ⟨rfl, rfl⟩
  unfold Part.properties
  split
  · rename_i properties given
    exact rule.lookup whole given
  · exact rule.stored none

end Inherited

variable {fields : Fields} {key : Text} {value : Json}

theorem Storable.lookup (storable : Storable (.object fields)) (found : fields.lookup key = some value) : Storable value :=
  inherited_storable.lookup storable found

theorem Storable.field? {document : Json} (storable : Storable document) (found : document.field? key = some value) :
    Storable value := by
  cases document with
  | object fields => exact storable.lookup found
  | null | bool | int | double | text | list => cases found

end Json

namespace Projection

open Json (Storable Inherited storable_list storable_text)

variable {kept : Json → Prop} {registry : Registry} {specs : List Spec} {target : Option Text} {contents fields : Fields} {items : List Json}
  {key name value : Text} {entry : Entry} {spec? : Option Spec} {flow : Json}

theorem kept_of_find? {id : Text} (each : ∀ item ∈ items, kept item) (found : Part.find? items id = some fields) :
    kept (.object fields) := each _ (Part.mem_of_find? found).1

theorem kept_replaceFirst {id : Text} (each : ∀ item ∈ items, kept item) (new : kept (.object fields)) :
    ∀ item ∈ Part.replaceFirst id fields items, kept item := by
  induction items with
  | nil => exact each
  | cons first rest ih =>
    have later := ih fun item member => each item (List.mem_cons_of_mem _ member)
    unfold Part.replaceFirst
    intro item member
    split at member
    · rcases List.mem_cons.mp member with rfl | member
      · exact new
      · exact each item (List.mem_cons_of_mem _ member)
    · rcases List.mem_cons.mp member with rfl | member
      · exact each item (List.mem_cons_self ..)
      · exact later item member

theorem kept_putProperty (rule : Inherited kept) (whole : kept (.object fields)) (name value : Text) :
    kept (.object (putProperty fields name value)) := rule.put whole (rule.put (rule.properties whole) (rule.stored (storable_text value)))

theorem kept_syncedProperties (rule : Inherited kept) (whole : kept (.object fields)) :
    kept (.object (syncedProperties registry fields)) := by
  have run : ∀ start : Fields, kept (.object start) →
      kept (.object (registry.foldl (fun (synced : Fields) item => synced.put item.1 (.text item.2.sql)) start)) := by
    induction registry with
    | nil => exact fun start held => held
    | cons item rest ih => exact fun start held => ih _ (rule.put held (rule.stored (storable_text _)))
  apply run
  obtain ⟨distinct, each⟩ := rule.object.mp whole
  exact rule.object.mpr ⟨distinct.sublist (List.filter_sublist.map _),
    fun field member => each field (List.mem_filter.mp member).1⟩

theorem storable_template : Storable FlowTemplate.flow ∧ (∀ processor ∈ FlowTemplate.processors.map Prod.snd, Storable processor) ∧
    (∀ connection ∈ FlowTemplate.edges.map FlowTemplate.connectionJson, Storable connection) ∧
    ∀ service ∈ FlowTemplate.services.map Prod.snd, Storable service := by
  have flow : Storable FlowTemplate.flow := ⟨by decide +kernel, by decide +kernel⟩
  have lists : ∀ (key : Text) (parts : List Json),
      (FlowTemplate.flow.field? "flowContents").bind (Json.field? · key) = some (.list parts) → ∀ part ∈ parts, Storable part := by
    intro key parts found
    obtain ⟨contents, given, listed⟩ := Option.bind_eq_some_iff.mp found
    exact storable_list.mp ((flow.field? given).field? listed)
  exact ⟨flow, lists "processors" _ rfl, lists "connections" _ rfl, lists "controllerServices" _ rfl⟩

theorem kept_of_from (rule : Inherited kept) {given : Option Json} {template : List Json} (ofGiven : ∀ value ∈ given, kept value)
    (ofTemplate : ∀ part ∈ template, Storable part) {part : Json} (origin : From given template part) : kept part :=
  origin.elim (rule.items ofGiven part) fun member => rule.stored (ofTemplate part member)

theorem Material.Fits.settle (rule : Inherited kept) {material : Material} (fits : material.Fits contents)
    (whole : kept (.object contents)) : kept (.object (material.settle registry key entry spec? contents)) := by
  obtain ⟨-, ofProcessors, ofConnections, ofServices⟩ := storable_template
  have held : ∀ {key value}, value ∈ contents.lookup key → kept value := fun found => rule.lookup whole found
  have processors : ∀ processor ∈ material.processors, kept processor :=
    fun processor member => kept_of_from rule (fun _ => held) ofProcessors (from_takenProcessors (fits.ofProcessors ▸ member))
  have connections : ∀ connection ∈ material.connections, kept connection :=
    fun connection member => kept_of_from rule (fun _ => held) ofConnections (from_takenConnections (fits.ofConnections ▸ member))
  have services : ∀ service ∈ material.services, kept service :=
    fun service member => kept_of_from rule (fun _ => held) ofServices (from_takenServices (fits.ofServices ▸ member))
  have service := kept_of_find? services fits.service
  have settledServices : ∀ service ∈ material.settledServices registry, kept service :=
    kept_replaceFirst services (rule.put service (kept_syncedProperties rule (rule.properties service)))
  have boundProcessors : ∀ processor ∈ material.boundProcessors key entry spec?, kept processor := by
    have bound := kept_of_find? processors fits.binding
    refine kept_replaceFirst (kept_replaceFirst (kept_replaceFirst processors ?_) ?_) ?_
    · cases spec? with
      | none => exact kept_putProperty rule bound ..
      | some spec => exact kept_putProperty rule (kept_putProperty rule (kept_putProperty rule bound ..) ..) ..
    · exact kept_putProperty rule (kept_of_find? processors fits.reader) ..
    · exact kept_putProperty rule (kept_of_find? processors fits.sink) ..
  exact rule.put (rule.put (rule.put (rule.put whole (rule.list.mpr processors)) (rule.list.mpr connections))
    (rule.list.mpr settledServices)) (rule.list.mpr boundProcessors)

theorem kept_started (rule : Inherited kept) (whole : kept flow) : kept (started flow) := by
  unfold started
  split
  · exact rule.stored storable_template.1
  · exact whole

-- A projection takes nothing into a flow that a file could not give back.
theorem kept_of_project (rule : Inherited kept) {projected : Projected} (present : registry ≠ []) (held : kept flow)
    (projects : (project registry specs target flow).outcome = .ok projected) : kept projected.flow := by
  obtain ⟨fields, contents, result, start, given, synced, made⟩ := project_eq_ok projects
  obtain ⟨material, entry, fits, -, rfl⟩ := syncContents_eq_ok present synced
  have whole := start ▸ kept_started rule held
  rw [made]
  exact rule.put whole (fits.settle rule (rule.lookup whole given))

theorem storable_of_project {projected : Projected} (present : registry ≠ []) (storable : Storable flow)
    (projects : (project registry specs target flow).outcome = .ok projected) :
    Storable projected.flow := kept_of_project Json.inherited_storable present storable projects

end Projection

end ChangeCapture
