import ChangeCapture.Contract.Verification
import ChangeCapture.Files.Layout
import ChangeCapture.Spec.Loading

namespace ChangeCapture

namespace Project

-- A specification that cannot be loaded breaks the contract. The rule on the id
-- field is an invariant of its own.
def specViolation (path : Path) (failure : Failure) : Violation :=
  let broken : Invariant :=
    if failure.kind = .specInvalid ∧ failure.particular "rule" = .text Invariant.i1.name then .i1 else .spec
  ⟨broken, path.toText, failure.text⟩

def loadEach : List Path → Job (List Spec × List Violation)
  | [] => return ([], [])
  | path :: paths => do
    match ← Job.settled (Spec.load path) with
    | .ok spec =>
      let (specs, violations) ← loadEach paths
      return (spec :: specs, violations)
    | .error (.failure failure) =>
      let (specs, violations) ← loadEach paths
      return (specs, specViolation path failure :: violations)
    | .error (.mishap mishap) => Job.mishap mishap

def readDocument (tree : Tree) (path : Path) (invariant : Invariant) :
    Except DiskFault (Json × List Violation) := do
  if ← tree.isFile path then
    let bytes ← tree.read path
    match Content.json bytes with
    | .ok document => .ok (document, [])
    | .error mishap => .ok (.null, [⟨invariant, path.toText, "not valid JSON: " ++ mishap.message⟩])
  else .ok (.null, [⟨invariant, path.toText, "file not found"⟩])

def document (path : Path) (invariant : Invariant) : Job (Json × List Violation) := do
  Job.ofDisk (readDocument (← Work.tree) path invariant)

def verdict (specs : List Spec) (registry : Json) (violations : List Violation) : LogLine :=
  if violations.isEmpty then
    let entries := match registry with
      | .object fields => fields.length
      | _ => 0
    ⟨.info, "Verified " ++ Text.ofNat specs.length ++ " spec(s), " ++ Text.ofNat entries ++
      " registry entries, flow topology"⟩
  else ⟨.error, "Verification found " ++ Text.ofNat violations.length ++ " violation(s)"⟩

def verifyDocuments (specs : List Spec) (registry flow : Json) (violations : List Violation) :
    Job (List Violation) := do
  match Verifier.run ⟨specs, registry, flow, violations⟩ with
  | .error collection => Job.mishap (.unhashable collection.kind)
  | .ok verifier =>
    Work.tellAll [verdict specs registry verifier.found]
    return verifier.found

def verifyPaths (specPaths : List Path) (registryPath flowPath : Path) : Job (List Violation) := do
  let (specs, ofSpecs) ← loadEach specPaths
  let (registry, ofRegistry) ← document registryPath .i2
  let (flow, ofFlow) ← document flowPath .i8
  let violations := ofSpecs ++ ofRegistry ++ ofFlow
  if registry = .null ∨ flow = .null then return violations
  else verifyDocuments specs registry flow violations

def verify (layout : Layout) : Job (List Violation) := do
  match ← Job.ofDisk (layout.specPaths (← Work.tree)) with
  | [] => return [⟨.spec, layout.specs.toText, "no spec files found"⟩]
  | paths => verifyPaths paths layout.registry layout.flow

end Project

end ChangeCapture
