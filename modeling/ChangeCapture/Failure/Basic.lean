import ChangeCapture.Json.Display

namespace ChangeCapture

inductive FailureKind where
  | general
  | specNotFound
  | specMalformed
  | specInvalid
  | templateRender
  | registryConflict
  | flowDrift
  | writeFailed
  | invariantViolation
  deriving DecidableEq, Repr

inductive ExitStatus where
  | ok
  | unexpected
  | specInvalid
  | flowDrift
  | registryConflict
  | invariantViolation
  deriving DecidableEq, Repr

namespace ExitStatus

def code : ExitStatus → Nat
  | .ok => 0
  | .unexpected => 1
  | .specInvalid => 2
  | .flowDrift => 3
  | .registryConflict => 4
  | .invariantViolation => 5

def name : ExitStatus → Text
  | .ok => "OK"
  | .unexpected => "UNEXPECTED"
  | .specInvalid => "SPEC_INVALID"
  | .flowDrift => "FLOW_DRIFT"
  | .registryConflict => "REGISTRY_CONFLICT"
  | .invariantViolation => "INVARIANT_VIOLATION"

end ExitStatus

namespace FailureKind

def all : List FailureKind := [.general, .specNotFound, .specMalformed, .specInvalid, .templateRender,
  .registryConflict, .flowDrift, .writeFailed, .invariantViolation]

def name : FailureKind → Text
  | .general => "CDCSpecError"
  | .specNotFound => "SpecNotFound"
  | .specMalformed => "SpecMalformed"
  | .specInvalid => "SpecInvalid"
  | .templateRender => "TemplateRenderError"
  | .registryConflict => "RegistryConflict"
  | .flowDrift => "FlowStructuralDrift"
  | .writeFailed => "WriteFailed"
  | .invariantViolation => "InvariantViolation"

def named? (name : Text) : Option FailureKind := all.find? fun kind => kind.name = name

def exitStatus : FailureKind → ExitStatus
  | .specNotFound | .specMalformed | .specInvalid => .specInvalid
  | .flowDrift => .flowDrift
  | .registryConflict => .registryConflict
  | .invariantViolation => .invariantViolation
  | .general | .templateRender | .writeFailed => .unexpected

def particulars : FailureKind → List Text
  | .general => []
  | .specNotFound | .specMalformed => ["spec_path"]
  | .specInvalid => ["field", "rule", "spec_path"]
  | .templateRender => ["table_name", "rule"]
  | .registryConflict => ["sql_id"]
  | .flowDrift => ["detail", "flow_path"]
  | .writeFailed => ["path"]
  | .invariantViolation => ["invariant"]

end FailureKind

structure Failure where
  kind : FailureKind
  message : Text
  known : Fields

namespace Failure

def particular (failure : Failure) (name : Text) : Json := (failure.known.lookup name).getD .null

def violationsName : Text := "violations"

def details (failure : Failure) : Fields :=
  let declared := failure.kind.particulars
  let known := if failure.kind = .invariantViolation then
      failure.known.filter fun field => field.1 ≠ violationsName else failure.known
  declared.map (fun name => (name, failure.particular name)) ++
    known.filter fun field => !declared.contains field.1

def text (failure : Failure) : Text :=
  match failure.kind with
  | .specInvalid =>
    let path := failure.particular "spec_path"
    let location : Text := if path.isEmptyLike then "" else path.spliced ++ ": "
    location ++ "SpecInvalid\x7b" ++ (failure.particular "field").spliced ++ ", " ++
      (failure.particular "rule").spliced ++ "\x7d: " ++ failure.message
  | _ => failure.message

end Failure

end ChangeCapture
