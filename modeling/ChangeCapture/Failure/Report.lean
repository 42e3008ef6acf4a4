import ChangeCapture.Failure.Basic
import ChangeCapture.Failure.Mishap
import ChangeCapture.Flow.Projection
import ChangeCapture.Spec.Rule

namespace ChangeCapture

inductive Stopped where
  | failure (failure : Failure)
  | mishap (mishap : Mishap)

def Json.ofText? : Option Text → Json
  | some t => .text t
  | none => .null

def SpecFault.stopped (path : Option Text) : SpecFault → Stopped
  | .noMapping kind =>
    .failure ⟨.specMalformed, "Spec must be a mapping, got " ++ kind, [("spec_path", .ofText? path)]⟩
  | .invalid first count =>
    .failure ⟨.specInvalid, first.rule.message, [("field", .text first.field), ("rule", .text first.rule.name),
      ("spec_path", .ofText? path), ("error_count", .int count)]⟩
  | .fileName name table =>
    .failure ⟨.specInvalid, "Spec file name '" ++ name ++ "' does not match table '" ++ table ++ "'",
      [("field", .text "table.name"), ("rule", .text "file_name"), ("spec_path", .ofText? path)]⟩
  | .unwritable error => .mishap (.encoding error)

def QueryFault.stopped (table : Option Text) (fault : QueryFault) : Stopped :=
  match fault.rule? with
  | some rule =>
    .failure ⟨.templateRender, fault.message, [("table_name", .ofText? table), ("rule", .text rule)]⟩
  | none => .mishap .noParts

def RegistryFault.stopped : RegistryFault → Stopped
  | .query table fault => fault.stopped (some table)
  | .conflict key table =>
    .failure ⟨.registryConflict,
      "sql_id " ++ key ++ " is generated by more than one spec (table " ++ table ++ ")",
      [("sql_id", .text key)]⟩

def FlowDrift.failure (drift : FlowDrift) : Failure :=
  ⟨.flowDrift, drift.message, [("detail", .text drift.detail), ("flow_path", .ofText? drift.path?)]⟩

def ProjectionStop.stopped : ProjectionStop → Stopped
  | .drift cause => .failure cause.failure
  | .collectionId kind => .mishap (.unhashable kind)
  | .window fault => .mishap (.integer fault)

end ChangeCapture
