import ChangeCapture.Proofs.Flow.Settled

namespace ChangeCapture.Projection

-- What a projection makes of each processor by itself: in a chain no identifier comes
-- twice, so the order of the list plays no part.

variable {processors : List Json} {binding reader sink fields : Fields} {key : Text} {entry : Entry} {spec? : Option Spec}

def rewritten (key : Text) (entry : Entry) (spec? : Option Spec) (processor : Json) : Json :=
  Part.changeAt FlowTemplate.sink (fun fields => putProperty fields FlowTemplate.operationProperty FlowTemplate.upsert)
    (Part.changeAt FlowTemplate.reader (fun fields => putProperty fields FlowTemplate.watermarkProperty entry.watermark)
      (Part.changeAt FlowTemplate.binding (boundBy key spec?) processor))

theorem nodup_ids (chain : HasProcessors processors) : (processors.map Part.id?).Nodup :=
  chain.nodup_iff.mpr (by decide)

theorem settledProcessors_eq_map (chain : HasProcessors processors)
    (foundBinding : Part.find? processors FlowTemplate.binding = some binding)
    (foundReader : Part.find? processors FlowTemplate.reader = some reader)
    (foundSink : Part.find? processors FlowTemplate.sink = some sink) :
    settledProcessors key entry spec? binding reader sink processors = processors.map (rewritten key entry spec?) := by
  have distinct := nodup_ids chain
  have ofBinding := (id_boundBy key spec? binding).trans (Part.id_of_find? foundBinding)
  have ofReader := (id_putProperty reader FlowTemplate.watermarkProperty entry.watermark).trans (Part.id_of_find? foundReader)
  have first := Part.replaceFirst_eq_map distinct foundBinding (boundBy key spec?)
  rw [← Part.find?_replaceFirst_of_ne (by decide) ofBinding] at foundReader foundSink
  rw [← Part.ids_replaceFirst ofBinding] at distinct
  have second := Part.replaceFirst_eq_map distinct foundReader
    fun fields => putProperty fields FlowTemplate.watermarkProperty entry.watermark
  rw [← Part.find?_replaceFirst_of_ne (by decide) ofReader] at foundSink
  rw [← Part.ids_replaceFirst ofReader] at distinct
  have third := Part.replaceFirst_eq_map distinct foundSink
    fun fields => putProperty fields FlowTemplate.operationProperty FlowTemplate.upsert
  rw [settledProcessors, third, second, first, List.map_map, List.map_map]
  rfl

theorem Material.Fits.boundProcessors_eq_map {material : Material} {contents : Fields} (fits : material.Fits contents)
    (key : Text) (entry : Entry) (spec? : Option Spec) :
    material.boundProcessors key entry spec? = material.processors.map (rewritten key entry spec?) :=
  settledProcessors_eq_map fits.chain fits.binding fits.reader fits.sink

section Role

theorem not_hasId_of_hasId {id other : Text} (apart : id ≠ other) (named : Part.hasId id (.object fields)) :
    ¬ Part.hasId other (.object fields) := fun two => apart (Part.hasId_unique named two)

theorem rewritten_binding (named : Part.hasId FlowTemplate.binding (.object fields)) (key : Text) (entry : Entry)
    (spec? : Option Spec) : rewritten key entry spec? (.object fields) = .object (boundBy key spec? fields) := by
  have kept : Part.hasId FlowTemplate.binding (.object (boundBy key spec? fields)) :=
    Part.hasId_of_lookup ((id_boundBy key spec? fields).trans (Part.hasId_iff_id?.mp named))
  rw [rewritten, Part.changeAt_of_hasId named, Part.changeAt_of_not_hasId (not_hasId_of_hasId (by decide) kept),
    Part.changeAt_of_not_hasId (not_hasId_of_hasId (by decide) kept)]

theorem rewritten_reader (named : Part.hasId FlowTemplate.reader (.object fields)) (key : Text) (entry : Entry)
    (spec? : Option Spec) : rewritten key entry spec? (.object fields) =
      .object (putProperty fields FlowTemplate.watermarkProperty entry.watermark) := by
  have kept : Part.hasId FlowTemplate.reader (.object (putProperty fields FlowTemplate.watermarkProperty entry.watermark)) :=
    Part.hasId_of_lookup ((id_putProperty ..).trans (Part.hasId_iff_id?.mp named))
  rw [rewritten, Part.changeAt_of_not_hasId (not_hasId_of_hasId (by decide) named), Part.changeAt_of_hasId named,
    Part.changeAt_of_not_hasId (not_hasId_of_hasId (by decide) kept)]

theorem rewritten_sink (named : Part.hasId FlowTemplate.sink (.object fields)) (key : Text) (entry : Entry)
    (spec? : Option Spec) : rewritten key entry spec? (.object fields) =
      .object (putProperty fields FlowTemplate.operationProperty FlowTemplate.upsert) := by
  rw [rewritten, Part.changeAt_of_not_hasId (not_hasId_of_hasId (by decide) named),
    Part.changeAt_of_not_hasId (not_hasId_of_hasId (by decide) named), Part.changeAt_of_hasId named]

inductive Role : Json → Prop where
  | binding (fields : Fields) (named : Part.hasId FlowTemplate.binding (.object fields)) : Role (.object fields)
  | reader (fields : Fields) (named : Part.hasId FlowTemplate.reader (.object fields)) : Role (.object fields)
  | sink (fields : Fields) (named : Part.hasId FlowTemplate.sink (.object fields)) : Role (.object fields)
  | other (processor : Json) (kept : ∀ key entry spec?, rewritten key entry spec? processor = processor) : Role processor

theorem role_of_processor (processor : Json) : Role processor := by
  by_cases ofBinding : Part.hasId FlowTemplate.binding processor
  · obtain ⟨fields, rfl, -⟩ := Part.hasId_iff.mp ofBinding
    exact .binding fields ofBinding
  · by_cases ofReader : Part.hasId FlowTemplate.reader processor
    · obtain ⟨fields, rfl, -⟩ := Part.hasId_iff.mp ofReader
      exact .reader fields ofReader
    · by_cases ofSink : Part.hasId FlowTemplate.sink processor
      · obtain ⟨fields, rfl, -⟩ := Part.hasId_iff.mp ofSink
        exact .sink fields ofSink
      · refine .other processor fun key entry spec? => ?_
        rw [rewritten, Part.changeAt_of_not_hasId ofBinding, Part.changeAt_of_not_hasId ofReader,
          Part.changeAt_of_not_hasId ofSink]

end Role

section Rebinding

theorem properties_put (processor properties : Fields) :
    Part.properties (processor.put "properties" (.object properties)) = properties :=
  properties_of_lookup (Fields.lookup_put ..)

theorem putProperty_putProperty (processor : Fields) (name first second : Text) :
    putProperty (putProperty processor name first) name second = putProperty processor name second := by
  simp only [putProperty, properties_put, Fields.put_put]

theorem boundTo_boundTo (key former : Text) (spec old : Spec) (processor : Fields) :
    boundTo key spec (boundTo former old processor) = boundTo key spec processor := by
  have keyIndex : FlowTemplate.sqlIdProperty ≠ FlowTemplate.indexProperty := by decide
  have keyIdField : FlowTemplate.sqlIdProperty ≠ FlowTemplate.idFieldProperty := by decide
  have indexIdField : FlowTemplate.indexProperty ≠ FlowTemplate.idFieldProperty := by decide
  simp only [boundTo, putProperty, properties_put, Fields.put_put]
  rw [Fields.put_comm (by simp [Fields.lookup_put_of_ne keyIndex]) keyIdField, Fields.put_comm (by simp) keyIndex,
    Fields.put_put, Fields.put_comm (by simp) indexIdField, Fields.put_put, Fields.put_put]

theorem boundTo_boundBy (key former : Text) (spec : Spec) (old? : Option Spec) (processor : Fields) :
    boundTo key spec (boundBy former old? processor) = boundTo key spec processor := by
  cases old? with
  | some old => exact boundTo_boundTo key former spec old processor
  | none => rw [boundBy, boundTo, putProperty_putProperty, boundTo]

-- Nothing of what a processor was rewritten by is left when it is rewritten for a
-- table that has a specification.
theorem rewritten_rewritten (key former : Text) (entry old : Entry) (spec : Spec) (old? : Option Spec) (processor : Json) :
    rewritten key entry (some spec) (rewritten former old old? processor) = rewritten key entry (some spec) processor := by
  cases role_of_processor processor with
  | binding fields named =>
    have kept : Part.hasId FlowTemplate.binding (.object (boundBy former old? fields)) :=
      Part.hasId_of_lookup ((id_boundBy former old? fields).trans (Part.hasId_iff_id?.mp named))
    rw [rewritten_binding named, rewritten_binding kept, rewritten_binding named, boundBy, boundTo_boundBy]
    rfl
  | reader fields named =>
    have kept := Part.hasId_of_lookup ((id_putProperty fields FlowTemplate.watermarkProperty old.watermark).trans
      (Part.hasId_iff_id?.mp named))
    rw [rewritten_reader named, rewritten_reader kept, rewritten_reader named, putProperty_putProperty]
  | sink fields named =>
    have kept := Part.hasId_of_lookup ((id_putProperty fields FlowTemplate.operationProperty FlowTemplate.upsert).trans
      (Part.hasId_iff_id?.mp named))
    rw [rewritten_sink named, rewritten_sink kept, rewritten_sink named, putProperty_putProperty]
  | other processor unchanged => rw [unchanged former old old?]

end Rebinding

end ChangeCapture.Projection
