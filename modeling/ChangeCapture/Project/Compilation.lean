import ChangeCapture.Artifact.Writing
import ChangeCapture.Json.Writer
import ChangeCapture.Project.Verification

namespace ChangeCapture

structure Compilation where
  status : ExitStatus
  spec : Path
  registry : Registry
  sqlId : Option Text
  repairs : List Repair
  violations : List Violation
  written : List Path
  failure : Option Failure
  isDryRun : Bool

namespace Compilation

def isOk (compilation : Compilation) : Bool := compilation.status = .ok

def toFields (compilation : Compilation) : Fields := [
  ("exit_code", .int compilation.status.code),
  ("spec_path", .text compilation.spec.toText),
  ("sql_ids", .list (compilation.registry.map fun entry => .text entry.1)),
  ("sql_id", .ofText? compilation.sqlId),
  ("repairs", .list (compilation.repairs.map fun repair => .object repair.toFields)),
  ("violations", .list (compilation.violations.map fun violation => .object violation.toFields)),
  ("written", .list (compilation.written.map fun path => .text path.toText)),
  ("error", .ofText? (compilation.failure.map Failure.text)),
  ("dry_run", .bool compilation.isDryRun)]

def failed (spec : Path) (isDryRun : Bool) (failure : Failure) (violations : List Violation) : Compilation :=
  ⟨failure.kind.exitStatus, spec, [], none, [], violations, [], some failure, isDryRun⟩

end Compilation

namespace Project

def readFlow (path : Path) : Job Json := do
  let tree ← Work.tree
  if ← Job.ofDisk (tree.has path) then
    match Content.json (← Job.ofDisk (tree.read path)) with
    | .ok flow => return flow
    | .error mishap => Job.fail (FlowDrift.unreadable mishap.message path.toText).failure
  else
    Work.tell .warning ("Flow file not found, starting from the canonical template: " ++ path.toText)
    return .null

-- The specifications of a project beside the compiled one, whose file may be listed
-- under another name.
def specSet (layout : Layout) (disk : Disk) (spec : Path) : Except DiskFault (List Path) :=
  (layout.specPaths disk.tree).map fun paths => paths.filter fun path => disk.site.resolve path ≠ disk.site.resolve spec

def buildRegistry (specs : List Spec) : Job Registry := do
  Work.tellAll (Registry.log specs)
  match Registry.build specs with
  | .ok registry => return registry
  | .error fault => Job.ofExcept (.error fault.stopped)

def projectFlow (registry : Registry) (specs : List Spec) (target : Text) (flow : Json) :
    Job (Projected × List Repair) := do
  match Projector.make registry specs (some target) with
  | none => Job.mishap .emptyRegistry
  | some projector =>
    let (outcome, projector) := projector.run flow
    Work.tellAll projector.log
    match outcome with
    | .ok projected => return (projected, projector.repairs)
    | .error stop => Job.ofExcept (.error stop.stopped)

def reread (artifacts : Artifacts) (path : Path) : Job Json :=
  match Json.read ((artifacts.lookup path).getD []) with
  | .ok document => return document
  | .error error => Job.mishap (.json error)

def verifyUnwritten (specs : List Spec) (artifacts : Artifacts) (layout : Layout) : Job (List Violation) := do
  let registry ← reread artifacts layout.registry
  let flow ← reread artifacts layout.flow
  match Verifier.run ⟨specs, registry, flow, []⟩ with
  | .ok verifier => return verifier.found
  | .error collection => Job.mishap (.unhashable collection.kind)

def brokenContract (first : Violation) (count : Nat) : Failure :=
  ⟨.invariantViolation,
    Text.ofNat count ++ " invariant violation(s) after compile, first: " ++ first.line,
    [("invariant", .text first.invariant.name)]⟩

inductive Compiled where
  | clean (compilation : Compilation)
  | broken (failure : Failure) (violations : List Violation)

def compileSpecs (layout : Layout) (path : Path) (isDryRun : Bool) : Job Compiled := do
  Work.tell .info ("Compiling " ++ path.toText ++ (if isDryRun then " (dry run)" else "" : String))
  let spec ← Spec.load path
  let others ← Job.ofDisk (specSet layout (← Work.disk) path)
  let specs := spec :: (← Spec.loadAll others)
  let registry ← buildRegistry specs
  let flow ← readFlow layout.flow
  let (projected, repairs) ← projectFlow registry specs spec.tableName flow
  let artifacts := Artifacts.ofPairs
    [(layout.registry, registry.toJson.write), (layout.flow, projected.flow.write)]
  let (written, violations) ←
    if isDryRun then do
      let violations ← verifyUnwritten specs artifacts layout
      pure ([], violations)
    else do
      let written ← Job.ofWork (Artifacts.write artifacts)
      let violations ← verifyPaths (path :: others) layout.registry layout.flow
      pure (written, violations)
  match violations with
  | first :: _ => return .broken (brokenContract first violations.length) violations
  | [] =>
    Work.tell .info ("Compiled " ++ spec.tableName ++ ": " ++ Text.ofNat registry.length ++ " registry entries, " ++
      Text.ofNat repairs.length ++ " flow change(s), bound to " ++ projected.sqlId)
    return .clean ⟨.ok, path, registry, some projected.sqlId, repairs, [], written, none, isDryRun⟩

-- One run from end to end. A failure of a documented kind is part of the outcome;
-- a mishap is passed on.
def compile (layout : Layout) (path : Path) (isDryRun : Bool) : Work (Except Mishap Compilation) := do
  let failed (failure : Failure) (violations : List Violation) : Work (Except Mishap Compilation) := do
    Work.tell .error ("Compile of " ++ path.toText ++ " failed: " ++ failure.text)
    return .ok (.failed path isDryRun failure violations)
  match ← (compileSpecs layout path isDryRun).run with
  | .ok (.clean compilation) => return .ok compilation
  | .ok (.broken failure violations) => failed failure violations
  | .error (.failure failure) => failed failure []
  | .error (.mishap mishap) => return .error mishap

end Project

end ChangeCapture
