import ChangeCapture.Json.Basic
import ChangeCapture.Log
import ChangeCapture.Text.Quoted

namespace ChangeCapture

inductive RepairKind where
  | flowCreated
  | topologyRestored
  | connectionRestored
  | serviceRestored
  | lookupRemoved
  | lookupAdded
  | lookupUpdated
  | propertiesReset
  | sqlIdRebound
  | propertySet
  | other (name : Text)
  deriving DecidableEq, Repr

namespace RepairKind

def name : RepairKind → Text
  | .flowCreated => "flow_created"
  | .topologyRestored => "topology_restored"
  | .connectionRestored => "connection_restored"
  | .serviceRestored => "service_restored"
  | .lookupRemoved => "lookup_removed"
  | .lookupAdded => "lookup_added"
  | .lookupUpdated => "lookup_updated"
  | .propertiesReset => "properties_reset"
  | .sqlIdRebound => "sql_id_rebound"
  | .propertySet => "property_set"
  | .other name => name

def isStale : RepairKind → Bool
  | .lookupAdded | .lookupUpdated | .propertySet | .other _ => false
  | _ => true

end RepairKind

structure Repair where
  kind : RepairKind
  target : Text
  detail : Text
  deriving DecidableEq, Repr

namespace Repair

def toFields (repair : Repair) : Fields :=
  [("kind", .text repair.kind.name), ("target", .text repair.target), ("detail", .text repair.detail)]

def line (repair : Repair) : Text := repair.kind.name ++ " " ++ repair.target ++ ": " ++ repair.detail

def label (repair : Repair) : Text :=
  "FlowRepair(kind=" ++ repair.kind.name.quoted ++ ", target=" ++ repair.target.quoted ++ ")"

def logLine (repair : Repair) : LogLine :=
  if repair.kind.isStale then ⟨.warning, "Repaired flow drift: " ++ repair.line⟩
  else ⟨.info, "Synced flow: " ++ repair.line⟩

end Repair

structure Repaired (ε α : Type) where
  repairs : List Repair
  outcome : Except ε α

namespace Repaired

variable {ε α β : Type}

def done (value : α) : Repaired ε α := ⟨[], .ok value⟩

def stop (reason : ε) : Repaired ε α := ⟨[], .error reason⟩

def note (kind : RepairKind) (target detail : Text) (value : α) : Repaired ε α :=
  ⟨[⟨kind, target, detail⟩], .ok value⟩

def andThen (first : Repaired ε α) (next : α → Repaired ε β) : Repaired ε β :=
  match first.outcome with
  | .error reason => ⟨first.repairs, .error reason⟩
  | .ok value =>
    let later := next value
    ⟨first.repairs ++ later.repairs, later.outcome⟩

instance : Monad (Repaired ε) where
  pure := done
  bind := andThen

end Repaired

end ChangeCapture
