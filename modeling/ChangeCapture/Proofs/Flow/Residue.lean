import ChangeCapture.Proofs.Contract.Projection
import ChangeCapture.Proofs.Flow.Surface

namespace ChangeCapture.Projection

open Fields (AgreeBut agreeBut_put)

-- A flow that is projected by one registry and then by another, beside the same flow
-- projected by the other one only.

variable {former latter : Registry} {contents : Fields} {flow : Json} {one other : Material} {key old : Text}
  {entry past : Entry} {spec : Spec} {spec? past? : Option Spec}

theorem Material.Fits.unique (first : one.Fits contents) (second : other.Fits contents) : one = other := by
  cases one
  cases other
  cases first.ofProcessors.trans second.ofProcessors.symm
  cases first.ofConnections.trans second.ofConnections.symm
  cases first.ofServices.trans second.ofServices.symm
  cases first.service.symm.trans second.service
  cases first.binding.symm.trans second.binding
  cases first.reader.symm.trans second.reader
  cases first.sink.symm.trans second.sink
  rfl

theorem Material.Fits.afterwards (first : one.Fits contents) (second : other.Fits (one.settle former old past past? contents)) :
    other.processors = one.boundProcessors old past past? ∧ other.connections = one.connections ∧
      other.services = one.settledServices former :=
  ⟨second.ofProcessors.trans (takenProcessors_of_held (lookup_settle_processors one past?) (first.bound old past past?)),
    second.ofConnections.trans (takenConnections_of_held (lookup_settle_connections one past?) first.links),
    second.ofServices.trans (takenServices_of_held (lookup_settle_services one past?) (first.settledServices former))⟩

theorem Material.Fits.settledServices_afterwards (shaped : ∀ key ∈ former.map Prod.fst, SqlId.isShaped key)
    (first : one.Fits contents) (second : other.Fits (one.settle former old past past? contents)) (latter : Registry) :
    other.settledServices latter = one.settledServices latter := by
  obtain ⟨-, -, services⟩ := first.afterwards second
  have service := second.service
  rw [services, first.settledService former] at service
  rw [Material.settledServices, services, ← Option.some.inj service, properties_put, Fields.put_put,
    syncedProperties_syncedProperties shaped, Material.settledServices, Part.replaceFirst_replaceFirst (first.idOfService _),
    Material.settledServices]

theorem Material.Fits.boundProcessors_afterwards (first : one.Fits contents)
    (second : other.Fits (one.settle former old past past? contents)) (key : Text) (entry : Entry) (spec : Spec) :
    other.boundProcessors key entry (some spec) = one.boundProcessors key entry (some spec) := by
  obtain ⟨processors, -, -⟩ := first.afterwards second
  rw [second.boundProcessors_eq_map, processors, first.boundProcessors_eq_map, first.boundProcessors_eq_map, List.map_map]
  exact List.map_congr_left fun processor _ => rewritten_rewritten key old entry past spec past? processor

theorem Material.Fits.settle_settle (shaped : ∀ key ∈ former.map Prod.fst, SqlId.isShaped key) (first : one.Fits contents)
    (second : other.Fits (one.settle former old past past? contents)) (latter : Registry) (key : Text) (entry : Entry)
    (spec : Spec) : other.settle latter key entry (some spec) (one.settle former old past past? contents) =
      one.settle latter key entry (some spec) contents := by
  obtain ⟨processors, connections, -⟩ := first.afterwards second
  have moved : ∀ (fields : Fields) (services bound again : Json),
      ((fields.put "controllerServices" services).put "processors" bound).put "controllerServices" again =
        (fields.put "controllerServices" again).put "processors" bound := by
    intro fields services bound again
    rw [Fields.put_comm (by simp) (by decide), Fields.put_put]
  rw [Material.settle, processors, connections, Fields.put_of_lookup (lookup_settle_processors one past?),
    Fields.put_of_lookup (lookup_settle_connections one past?), first.settledServices_afterwards shaped second,
    first.boundProcessors_afterwards second, Material.settle, Material.settle, moved, Fields.put_put]

def queryProperties : List (Text × List Text) :=
  [(FlowTemplate.binding, bindingProperties), (FlowTemplate.reader, [FlowTemplate.watermarkProperty])]

-- Contents that differ in no more than what follows from the query they are bound to.
structure DifferInQuery (one other : Fields) : Prop where
  others : AgreeBut ["processors"] one other
  processors : ∃ left right, one.lookup ("processors" : Text) = some (.list left) ∧
    other.lookup ("processors" : Text) = some (.list right) ∧
    List.Forall₂ (fun first second => SetsOnly queryProperties first second ∧ SetsOnly queryProperties second first) left right

theorem setsOnly_of_rewritten (processor : Json) : SetsOnly queryProperties (rewritten old past past? processor)
    (rewritten key entry spec? processor) := by
  cases role_of_processor processor with
  | binding fields named =>
    have kept : Part.hasId FlowTemplate.binding (.object (boundBy old past? fields)) :=
      Part.hasId_of_lookup ((id_boundBy old past? fields).trans (Part.hasId_iff_id?.mp named))
    rw [rewritten_binding named, rewritten_binding named]
    exact .set (List.mem_cons_self ..) kept
      ((setsProperties_boundBy old past? fields).symm_trans (setsProperties_boundBy key spec? fields))
  | reader fields named =>
    have kept := Part.hasId_of_lookup ((id_putProperty fields FlowTemplate.watermarkProperty past.watermark).trans
      (Part.hasId_iff_id?.mp named))
    have sets : ∀ value, SetsProperties [FlowTemplate.watermarkProperty] fields
        (putProperty fields FlowTemplate.watermarkProperty value) :=
      setsProperties_putProperty (List.mem_singleton.mpr rfl) fields
    rw [rewritten_reader named, rewritten_reader named]
    exact .set (by simp [queryProperties]) kept ((sets past.watermark).symm_trans (sets entry.watermark))
  | sink fields named =>
    rw [rewritten_sink named, rewritten_sink named]
    exact .same _
  | other processor unchanged =>
    rw [unchanged, unchanged]
    exact .same processor

theorem Material.Fits.differInQuery (fits : one.Fits contents) : DifferInQuery
    (one.settle latter old past past? contents) (one.settle latter key entry spec? contents) := by
  have agree : ∀ fields value, AgreeBut ["processors"] fields (Fields.put "processors" value fields) :=
    fun fields value => agreeBut_put (List.mem_singleton.mpr rfl) fields value
  refine ⟨(agree _ _).symm.trans (agree _ _), _, _, lookup_settle_processors one past?, lookup_settle_processors one spec?, ?_⟩
  rw [fits.boundProcessors_eq_map, fits.boundProcessors_eq_map, List.forall₂_map_left_iff, List.forall₂_map_right_iff,
    List.forall₂_same]
  exact fun processor _ => ⟨setsOnly_of_rewritten processor, setsOnly_of_rewritten processor⟩

-- An earlier projection, by whatever registry, leaves nothing behind: what a later one
-- makes of its flow is what it makes of the flow from before, but for the query that
-- the earlier one may have bound and the later one keeps.
theorem no_residue_of_projection {sources specs : List Spec} {start target : Option Text} {first second : Projector}
    {earlier later fresh : Projected} (ofFormer : Registry.build sources = .ok former)
    (ofLatter : Registry.build specs = .ok latter) (made : Projector.make former sources start = some first)
    (remade : Projector.make latter specs target = some second) (run : (first.run flow).1 = .ok earlier)
    (again : (second.run earlier.flow).1 = .ok later) (anew : (second.run flow).1 = .ok fresh) :
    (later.sqlId = fresh.sqlId → later.flow = fresh.flow) ∧ ChangesContents DifferInQuery later.flow fresh.flow := by
  obtain ⟨presentFormer, rfl⟩ := Projector.make_eq_some_iff.mp made
  obtain ⟨presentLatter, rfl⟩ := Projector.make_eq_some_iff.mp remade
  -- The first projection and the fresh one start from one flow, so what they take from it is
  -- the same; only the later one starts from what was settled before.
  obtain ⟨fields, contents, _, begins, listed, synced, madeEarlier⟩ := project_eq_ok run
  obtain ⟨material, past, fits, -, rfl⟩ := syncContents_eq_ok presentFormer synced
  obtain ⟨_, _, _, beginsFresh, listedFresh, syncedFresh, madeFresh⟩ := project_eq_ok anew
  cases begins.symm.trans beginsFresh
  cases listed.symm.trans listedFresh
  obtain ⟨_, entryFresh, fitsFresh, thereFresh, rfl⟩ := syncContents_eq_ok presentLatter syncedFresh
  cases fits.unique fitsFresh
  obtain ⟨_, _, _, beginsLater, listedLater, syncedLater, madeLater⟩ := project_eq_ok again
  rw [madeEarlier, started, if_neg (by simp)] at beginsLater
  cases beginsLater
  rw [Fields.lookup_put] at listedLater
  cases listedLater
  obtain ⟨other, entry, fitsLater, there, rfl⟩ := syncContents_eq_ok presentLatter syncedLater
  -- The table of a query of a built registry is specified, so all three properties are set anew.
  obtain ⟨spec, known⟩ := Contract.known_of_build ofLatter later.sqlId entry there
  rw [known, fits.settle_settle (Registry.shaped_of_build ofFormer) fitsLater, Fields.put_put] at madeLater
  refine ⟨fun same => ?_, _, _, _, _, madeLater, madeFresh, ?_, Fields.lookup_put ..,
    Fields.lookup_put .., fits.differInQuery⟩
  · rw [same] at there madeLater
    cases there.symm.trans thereFresh
    rw [madeLater, madeFresh, known]
  · exact (agreeBut_put (List.mem_singleton.mpr rfl) _ _).symm.trans (agreeBut_put (List.mem_singleton.mpr rfl) _ _)

theorem no_residue_of_sample : ∃ former latter first second earlier later fresh,
    Registry.build [Spec.Sample.small, Spec.Sample.items] = .ok former ∧ Registry.build [Spec.Sample.items] = .ok latter ∧
      Projector.make former [Spec.Sample.small, Spec.Sample.items] (some "t") = some first ∧
      Projector.make latter [Spec.Sample.items] none = some second ∧ (first.run ownFlow).1 = .ok earlier ∧
      (second.run earlier.flow).1 = .ok later ∧ (second.run ownFlow).1 = .ok fresh ∧ earlier.sqlId ≠ fresh.sqlId ∧
      later.flow = fresh.flow := by
  let former : Registry := [Registry.item Spec.Sample.items "5m", Registry.item Spec.Sample.small "5m"]
  let latter : Registry := [Registry.item Spec.Sample.items "5m"]
  let wanted : Option Text := ((some "t" : Option Text).filter fun name => !name.isEmpty).map Text.upper
  let first : Projector := ⟨former, [Spec.Sample.small, Spec.Sample.items], wanted, []⟩
  let second : Projector := ⟨latter, [Spec.Sample.items], none, []⟩
  have ofFormer : Registry.build [Spec.Sample.small, Spec.Sample.items] = .ok former := eq_ok_of_toOption (by decide +kernel)
  have ofLatter : Registry.build [Spec.Sample.items] = .ok latter := eq_ok_of_toOption (by decide +kernel)
  have returns : (first.run ownFlow).1.toOption.any fun earlier => (second.run earlier.flow).1.toOption.any fun later =>
      (second.run ownFlow).1.toOption.any fun fresh => later.sqlId = fresh.sqlId ∧ earlier.sqlId ≠ fresh.sqlId := by
    decide +kernel
  obtain ⟨earlier, run, returns⟩ := eq_ok_of_any returns
  obtain ⟨later, again, returns⟩ := eq_ok_of_any returns
  obtain ⟨fresh, anew, keys⟩ := eq_ok_of_any returns
  obtain ⟨same, moved⟩ := of_decide_eq_true keys
  have made : Projector.make former [Spec.Sample.small, Spec.Sample.items] (some "t") = some first := rfl
  have remade : Projector.make latter [Spec.Sample.items] none = some second := rfl
  have residue := no_residue_of_projection ofFormer ofLatter made remade run again anew
  exact ⟨former, latter, first, second, earlier, later, fresh, ofFormer, ofLatter, made, remade, run, again, anew, moved,
    residue.1 same⟩

end ChangeCapture.Projection
