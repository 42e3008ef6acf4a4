import ChangeCapture.Files.Content
import ChangeCapture.Retry
import ChangeCapture.Work

namespace ChangeCapture

abbrev Artifacts := List (Path × Text)

structure Staged where
  temporary : Temporary
  path : Path
  deriving DecidableEq, Repr

namespace Artifacts

def put (artifacts : Artifacts) (path : Path) (text : Text) : Artifacts :=
  match artifacts with
  | [] => [(path, text)]
  | entry :: rest => if entry.1 = path then (path, text) :: rest else entry :: put rest path text

def ofPairs (pairs : List (Path × Text)) : Artifacts :=
  pairs.foldl (fun artifacts pair => put artifacts pair.1 pair.2) []

def isDisk : Mishap → Bool
  | .disk _ => true
  | _ => false

-- A text is written in full to a temporary file beside its place. When that file
-- cannot be secured it is taken away again.
def stageOnce (path : Path) (text : Text) (disk : Disk) : Except Mishap Temporary × Disk :=
  match Tree.makeDirectories path.parent disk.tree with
  | (.error mishap, tree) => (.error mishap, disk.withTree tree)
  | (.ok _, tree) =>
    match (disk.withTree tree).createBeside path with
    | (.error mishap, disk) => (.error mishap, disk)
    | (.ok temporary, disk) =>
      match Utf8.encode text with
      | .error error => (.error (.encoding error), disk)
      | .ok bytes =>
        match (disk.fill temporary bytes).call .sync with
        | (.error fault, disk) => (.error (.disk fault), disk.remove temporary)
        | (.ok _, disk) => (.ok temporary, disk)

def replaceOnce (staged : Staged) (disk : Disk) : Except Mishap Unit × Disk :=
  match disk.rename staged.temporary staged.path with
  | (.ok _, disk) => (.ok (), disk)
  | (.error fault, disk) => (.error (.disk fault), disk)

def tried {α : Type} (name : Text) (action : Disk → Except Mishap α × Disk) : Work (Except Mishap α) := do
  let desk ← get
  let run := Retry.twice name isDisk Mishap.message action desk.disk
  set (⟨run.state, desk.log ++ run.log⟩ : Desk)
  return run.result

def stage (path : Path) (text : Text) : Work (Except Mishap Temporary) := tried "_stage" (stageOnce path text)

def replace (staged : Staged) : Work (Except Mishap Unit) := tried "_replace" (replaceOnce staged)

def stopAt (verb : Text) (path : Path) : Mishap → Stopped
  | .disk fault =>
    .failure ⟨.writeFailed, "Failed to " ++ verb ++ " " ++ path.toText ++ ": " ++ fault.message,
      [("path", .text path.toText)]⟩
  | mishap => .mishap mishap

def isCurrent (tree : Tree) (path : Path) (text : Text) : Except Mishap Bool := do
  if ← (tree.isFile path).mapError Mishap.disk then
    let bytes ← (tree.read path).mapError Mishap.disk
    (Content.text bytes).map fun found => found = text
  else .ok false

def stageChanged : Artifacts → Work (List Staged × Option Stopped)
  | [] => return ([], none)
  | (path, text) :: rest => do
    match isCurrent (← Work.tree) path text with
    | .error mishap => return ([], some (.mishap mishap))
    | .ok true =>
      Work.tell .info ("Unchanged: " ++ path.toText)
      stageChanged rest
    | .ok false =>
      match ← stage path text with
      | .error mishap => return ([], some (stopAt "stage" path mishap))
      | .ok temporary =>
        let (staged, stopped) ← stageChanged rest
        return (⟨temporary, path⟩ :: staged, stopped)

def replaceAll : List Staged → Work (Except Stopped (List Path))
  | [] => return .ok []
  | staged :: rest => do
    match ← replace staged with
    | .error mishap => return .error (stopAt "replace" staged.path mishap)
    | .ok _ =>
      Work.tell .info ("Wrote " ++ staged.path.toText)
      return (← replaceAll rest).map (staged.path :: ·)

def clear (staged : List Staged) : Work Unit :=
  modify fun desk => { desk with disk := staged.foldl (fun disk one => disk.remove one.temporary) desk.disk }

-- Every artifact is staged before the first file is replaced, so a failure while
-- staging leaves all files as they were. What was staged and not used is cleared.
def write (artifacts : Artifacts) : Work (Except Stopped (List Path)) := do
  let (staged, stopped) ← stageChanged artifacts
  let result ← match stopped with
    | some reason => pure (.error reason)
    | none => replaceAll staged
  clear staged
  return result

end Artifacts

end ChangeCapture
