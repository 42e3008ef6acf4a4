import ChangeCapture.Failure.Report
import ChangeCapture.Files.Disk

namespace ChangeCapture

structure Desk where
  disk : Disk
  log : Log
  deriving DecidableEq, Repr

-- Work that is always finished, and a job that may be stopped on the way. What
-- was done before a stop stays done.
abbrev Work := StateM Desk

abbrev Job := ExceptT Stopped Work

namespace Work

def tell (severity : Severity) (message : Text) : Work Unit :=
  modify fun desk => { desk with log := desk.log ++ [⟨severity, message⟩] }

def tellAll (lines : Log) : Work Unit := modify fun desk => { desk with log := desk.log ++ lines }

def disk : Work Disk := do return (← get).disk

def tree : Work Tree := do return (← get).disk.tree

def onDisk {α : Type} (action : Disk → α × Disk) : Work α := do
  let desk ← get
  let (value, disk) := action desk.disk
  set { desk with disk := disk }
  return value

end Work

namespace Job

def fail {α : Type} (failure : Failure) : Job α := throw (.failure failure)

def mishap {α : Type} (mishap : Mishap) : Job α := throw (.mishap mishap)

def ofExcept {α : Type} (result : Except Stopped α) : Job α :=
  match result with
  | .ok value => pure value
  | .error stopped => throw stopped

def ofDisk {α : Type} (result : Except DiskFault α) : Job α :=
  ofExcept (result.mapError fun fault => .mishap (.disk fault))

def ofWork {α : Type} (work : Work (Except Stopped α)) : Job α := ExceptT.mk work

def settled {α : Type} (job : Job α) : Job (Except Stopped α) := ExceptT.lift job.run

end Job

end ChangeCapture
