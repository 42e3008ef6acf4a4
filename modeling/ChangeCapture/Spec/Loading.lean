import ChangeCapture.Files.Content
import ChangeCapture.Spec.Validation
import ChangeCapture.Work
import ChangeCapture.Yaml.Unfolding

namespace ChangeCapture.Spec

-- What a reader's own account of a malformed text is told as.
def malformedText : Text := "<yaml error>"

def malformed (path : Path) (message : Text) : Stopped :=
  .failure ⟨.specMalformed, message, [("spec_path", .text path.toText)]⟩

def checkName (path : Path) (spec : Spec) : Except SpecFault Spec :=
  if path.stem = spec.tableLower then .ok spec else .error (.fileName path.name spec.table.name)

def ofBytes (path : Path) (bytes : Bytes) : Except Stopped Spec :=
  match Content.textInBlocks bytes with
  | .error mishap => .error (malformed path ("Spec file is not UTF-8: " ++ mishap.message))
  | .ok text =>
    match Yaml.read text.withLineFeeds with
    | .error .malformed => .error (malformed path ("Spec file is not valid YAML: " ++ malformedText))
    | .error (.refused mishap) => .error (.mishap mishap)
    | .ok document =>
      (Spec.ofDocument document >>= checkName path).mapError (SpecFault.stopped (some path.toText))

def read (tree : Tree) (path : Path) : Except Stopped Spec := do
  let refused (fault : DiskFault) : Stopped := .mishap (.disk fault)
  if ← (tree.isFile path).mapError refused then
    let bytes ← (tree.read path).mapError refused
    ofBytes path bytes
  else .error (.failure ⟨.specNotFound, "Spec file not found: " ++ path.toText, [("spec_path", .text path.toText)]⟩)

def loadedMessage (path : Path) (spec : Spec) : Text :=
  "Loaded spec " ++ path.toText ++ ": " ++ spec.table.schema ++ "." ++ spec.tableName ++ " (" ++
    Text.ofNat spec.windows.options.length ++ " windows)"

def load (path : Path) : Job Spec := do
  let spec ← Job.ofExcept (read (← Work.tree) path)
  Work.tell .info (loadedMessage path spec)
  return spec

def loadAll : List Path → Job (List Spec)
  | [] => return []
  | path :: paths => do
    let spec ← load path
    let specs ← loadAll paths
    return spec :: specs

end ChangeCapture.Spec
