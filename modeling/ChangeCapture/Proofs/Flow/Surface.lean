import ChangeCapture.Proofs.Flow.Rewriting
import ChangeCapture.Proofs.Outcome
import ChangeCapture.Proofs.Spec.Sample
import Mathlib.Data.List.Forall2

namespace ChangeCapture

namespace Fields

variable {names : List Text} {one other last : Fields}

def AgreeBut (names : List Text) (one other : Fields) : Prop := ∀ name, name ∉ names → one.lookup name = other.lookup name

theorem AgreeBut.symm (agree : AgreeBut names one other) : AgreeBut names other one :=
  fun name apart => (agree name apart).symm

theorem AgreeBut.trans (first : AgreeBut names one other) (second : AgreeBut names other last) : AgreeBut names one last :=
  fun name apart => (first name apart).trans (second name apart)

theorem agreeBut_put {name : Text} (listed : name ∈ names) (fields : Fields) (value : Json) :
    AgreeBut names fields (fields.put name value) :=
  fun other apart => (lookup_put_of_ne (fun (same : other = name) => apart (same ▸ listed)) fields value).symm

end Fields

namespace Projection

open Fields (AgreeBut agreeBut_put)

variable {names : List Text} {table : List (Text × List Text)} {before after last : Fields} {processor : Json} {key : Text}
  {entry : Entry} {spec? : Option Spec} {registry : Registry} {specs : List Spec} {target : Option Text}
  {contents result : Fields} {flow : Json}

-- Of a part nothing is changed but some of its properties, which are an object then
-- whatever they were.
structure SetsProperties (names : List Text) (before after : Fields) : Prop where
  others : AgreeBut ["properties"] before after
  own : ∃ properties, after.lookup ("properties" : Text) = some (.object properties) ∧
    AgreeBut names (Part.properties before) properties

theorem setsProperties_putProperty {name : Text} (listed : name ∈ names) (fields : Fields) (value : Text) :
    SetsProperties names fields (putProperty fields name value) :=
  ⟨agreeBut_put (List.mem_singleton.mpr rfl) _ _, _, lookup_putProperty .., agreeBut_put listed _ _⟩

theorem SetsProperties.trans (first : SetsProperties names before after) (second : SetsProperties names after last) :
    SetsProperties names before last := by
  obtain ⟨middle, given, kept⟩ := first.own
  obtain ⟨properties, final, own⟩ := second.own
  rw [properties_of_lookup given] at own
  exact ⟨first.others.trans second.others, properties, final, kept.trans own⟩

theorem SetsProperties.symm_trans (first : SetsProperties names before after) (second : SetsProperties names before last) :
    SetsProperties names after last := by
  obtain ⟨middle, given, kept⟩ := first.own
  obtain ⟨properties, final, own⟩ := second.own
  refine ⟨first.others.symm.trans second.others, properties, final, ?_⟩
  rw [properties_of_lookup given]
  exact kept.symm.trans own

def bindingProperties : List Text := [FlowTemplate.sqlIdProperty, FlowTemplate.indexProperty, FlowTemplate.idFieldProperty]

theorem setsProperties_boundBy (key : Text) (spec? : Option Spec) (fields : Fields) :
    SetsProperties bindingProperties fields (boundBy key spec? fields) := by
  have sets : ∀ name ∈ bindingProperties, ∀ fields value,
      SetsProperties bindingProperties fields (putProperty fields name value) :=
    fun name listed => setsProperties_putProperty listed
  have ofKey := sets FlowTemplate.sqlIdProperty (by decide) fields key
  cases spec? with
  | none => exact ofKey
  | some spec =>
    exact (ofKey.trans (sets FlowTemplate.indexProperty (by decide) _ _)).trans
      (sets FlowTemplate.idFieldProperty (by decide) _ _)

inductive SetsOnly (table : List (Text × List Text)) : Json → Json → Prop where
  | same (processor : Json) : SetsOnly table processor processor
  | set {id : Text} {names : List Text} {before after : Fields} (listed : (id, names) ∈ table)
      (named : Part.hasId id (.object before)) (sets : SetsProperties names before after) :
      SetsOnly table (.object before) (.object after)

def ownProperties : List (Text × List Text) := [
  (FlowTemplate.binding, bindingProperties),
  (FlowTemplate.reader, [FlowTemplate.watermarkProperty]),
  (FlowTemplate.sink, [FlowTemplate.operationProperty])]

theorem setsOnly_rewritten (key : Text) (entry : Entry) (spec? : Option Spec) (processor : Json) :
    SetsOnly ownProperties processor (rewritten key entry spec? processor) := by
  cases role_of_processor processor with
  | binding fields named =>
    rw [rewritten_binding named]
    exact .set (List.mem_cons_self ..) named (setsProperties_boundBy key spec? fields)
  | reader fields named =>
    rw [rewritten_reader named]
    exact .set (by simp [ownProperties]) named (setsProperties_putProperty (List.mem_singleton.mpr rfl) fields _)
  | sink fields named =>
    rw [rewritten_sink named]
    exact .set (by simp [ownProperties]) named (setsProperties_putProperty (List.mem_singleton.mpr rfl) fields _)
  | other processor kept =>
    rw [kept]
    exact .same processor

-- Of the look-up only properties are changed: those of the registry's name space are
-- exactly its queries, all others keep their values.
structure TakesQueries (registry : Registry) (before after : Fields) : Prop where
  others : AgreeBut ["properties"] before after
  own : ∃ properties, after.lookup ("properties" : Text) = some (.object properties) ∧ ∀ name, properties.lookup name =
    if SqlId.isShaped name then (registry.lookup name).map fun entry => .text entry.sql
    else (Part.properties before).lookup name

-- The change that a projection makes to the contents of a flow. Each of the three
-- lists keeps its items and their order; connections and the look-up of the template
-- come after the given ones where they are missing. A chain of processors is taken
-- from the template only where none is given.
structure LeastChange (registry : Registry) (before after : Fields) : Prop where
  others : AgreeBut ["processors", "connections", "controllerServices"] before after
  processors : ∃ processors, after.lookup ("processors" : Text) = some (.list processors) ∧
    List.Forall₂ (SetsOnly ownProperties) (takenProcessors before) processors
  connections : after.lookup ("connections" : Text) = some (.list (Part.items (before.lookup ("connections" : Text)) ++
    missingConnections (Part.items (before.lookup ("connections" : Text)))))
  services : ∃ given head old new tail, before.lookup ("controllerServices" : Text) = some (.list given) ∧
    given ++ missingServices given = head ++ .object old :: tail ∧
    Part.hasId FlowTemplate.lookupService (.object old) ∧
    (∀ service ∈ head, ¬ Part.hasId FlowTemplate.lookupService service) ∧ TakesQueries registry old new ∧
    after.lookup ("controllerServices" : Text) = some (.list (head ++ .object new :: tail))

def ChangesContents (change : Fields → Fields → Prop) (before after : Json) : Prop :=
  ∃ old new contents result, before = .object old ∧ after = .object new ∧ AgreeBut ["flowContents"] old new ∧
    old.lookup ("flowContents" : Text) = some (.object contents) ∧
    new.lookup ("flowContents" : Text) = some (.object result) ∧ change contents result

theorem takesQueries_synced (distinct : (registry.map Prod.fst).Nodup)
    (shaped : ∀ key ∈ registry.map Prod.fst, SqlId.isShaped key) (service : Fields) : TakesQueries registry service
      (service.put "properties" (.object (syncedProperties registry (Part.properties service)))) := by
  refine ⟨agreeBut_put (List.mem_singleton.mpr rfl) _ _, _, Fields.lookup_put .., fun name => ?_⟩
  rw [lookup_syncedProperties distinct]
  split
  · rw [Option.or_none]
  · rename_i unshaped
    have absent := lookup_eq_none_iff_not_mem.mpr fun member => unshaped (shaped name member)
    simp [absent]

theorem given_of_hasServices (complete : HasServices (takenServices contents)) :
    ∃ given, contents.lookup ("controllerServices" : Text) = some (.list given) := by
  have pool := complete FlowTemplate.databasePool (by decide)
  have none : (Part.find? (missingServices []) FlowTemplate.databasePool).isSome = false := by decide
  unfold takenServices at pool
  generalize contents.lookup ("controllerServices" : Text) = listed at pool
  rcases listed with - | listed
  · exact absurd pool (by simp [Part.items, none])
  · cases listed with
    | list given => exact ⟨given, rfl⟩
    | null | bool | int | double | text | object => exact absurd pool (by simp [Part.items, none])

theorem Material.Fits.leastChange {material : Material} (fits : material.Fits contents)
    (distinct : (registry.map Prod.fst).Nodup) (shaped : ∀ key ∈ registry.map Prod.fst, SqlId.isShaped key) :
    LeastChange registry contents (material.settle registry key entry spec? contents) where
  others := by
    have agree : ∀ name ∈ (["processors", "connections", "controllerServices"] : List Text), ∀ fields value,
        AgreeBut ["processors", "connections", "controllerServices"] fields (fields.put name value) :=
      fun name listed => agreeBut_put listed
    have ofProcessors := agree "processors" (by decide)
    exact (((ofProcessors _ _).trans (agree "connections" (by decide) _ _)).trans
      (agree "controllerServices" (by decide) _ _)).trans (ofProcessors _ _)
  processors := by
    refine ⟨_, lookup_settle_processors material spec?, ?_⟩
    rw [fits.boundProcessors_eq_map, fits.ofProcessors]
    exact List.forall₂_map_right_iff.mpr (List.forall₂_same.mpr fun processor _ => setsOnly_rewritten key entry spec? processor)
  connections := by
    rw [lookup_settle_connections, fits.ofConnections, takenConnections]
  services := by
    have complete := fits.present
    rw [fits.ofServices] at complete
    obtain ⟨given, listed⟩ := given_of_hasServices complete
    have taken : material.services = given ++ missingServices given := by rw [fits.ofServices, takenServices, listed]; rfl
    obtain ⟨head, tail, same, before, replaced⟩ := Part.split_of_find? fits.service
    refine ⟨given, head, material.service, _, tail, listed, taken.symm.trans same, (Part.mem_of_find? fits.service).2, before,
      takesQueries_synced distinct shaped material.service, ?_⟩
    rw [lookup_settle_services, Material.settledServices, replaced]

-- A projection changes nothing in a flow but what refers to the registry, whatever
-- specifications it goes by.
theorem leastChange_of_projection {sources : List Spec} {projector : Projector} {projected : Projected}
    (built : Registry.build sources = .ok registry) (made : Projector.make registry specs target = some projector)
    (given : flow ≠ .null) (run : (projector.run flow).1 = .ok projected) :
    ChangesContents (LeastChange registry) flow projected.flow := by
  obtain ⟨present, rfl⟩ := Projector.make_eq_some_iff.mp made
  obtain ⟨fields, contents, result, start, listed, synced, same⟩ := project_eq_ok run
  rw [started, if_neg given] at start
  obtain ⟨material, entry, fits, -, rfl⟩ := syncContents_eq_ok present synced
  exact ⟨fields, _, contents, _, start, same, agreeBut_put (List.mem_singleton.mpr rfl) _ _, listed, Fields.lookup_put ..,
    fits.leastChange (Registry.keys_of_build built) (Registry.shaped_of_build built)⟩

def ownFlow : Json :=
  .object [
    ("owner", .text "operations"),
    ("flowContents", .object [
      ("comments", .text "not generated"),
      ("processors", FlowTemplate.allProcessors),
      ("connections", .list ((FlowTemplate.edges.take 1).map FlowTemplate.connectionJson)),
      ("controllerServices", .list ((FlowTemplate.services.drop 1).map Prod.snd))])]

theorem leastChange_of_sample : ∃ registry projector projected, Registry.build [Spec.Sample.small] = .ok registry ∧
    Projector.make registry [] none = some projector ∧ ownFlow ≠ .null ∧ (projector.run ownFlow).1 = .ok projected ∧
      ChangesContents (LeastChange registry) ownFlow projected.flow := by
  let registry : Registry := [Registry.item Spec.Sample.small "5m"]
  let projector : Projector := ⟨registry, [], none, []⟩
  have built : Registry.build [Spec.Sample.small] = .ok registry := eq_ok_of_toOption (by decide +kernel)
  have made : Projector.make registry [] none = some projector := rfl
  have own : ownFlow ≠ .null := nofun
  have returns : (projector.run ownFlow).1.toOption.isSome := by decide +kernel
  obtain ⟨projected, run⟩ := eq_ok_of_isSome returns
  exact ⟨registry, projector, projected, built, made, own, run, leastChange_of_projection built made own run⟩

end Projection

end ChangeCapture
