import ChangeCapture.Proofs.Outcome
import ChangeCapture.Work

namespace ChangeCapture

variable {α β : Type} {value : α} {before after : Desk}

def Stopped.IsOf (kinds : List FailureKind) : Stopped → Prop
  | .failure told => told.kind ∈ kinds
  | .mishap _ => True

theorem Stopped.IsOf.mono {kinds wider : List FailureKind} {reason : Stopped} (listed : reason.IsOf kinds) (sub : kinds ⊆ wider) :
    reason.IsOf wider := by
  cases reason with
  | failure told => exact sub listed
  | mishap mishap => trivial

-- Work and a job that take a desk to another one. A job that is stopped does not end.
def Work.Ends (work : Work α) (before : Desk) (value : α) (after : Desk) : Prop :=
  StateT.run work before = (value, after)

def Job.Ends (job : Job α) (before : Desk) (value : α) (after : Desk) : Prop :=
  Work.Ends job.run before (.ok value) after

namespace Work

variable {work : Work α}

theorem ends_of_fst (same : (StateT.run work before).1 = value) : Ends work before value (StateT.run work before).2 :=
  Prod.ext same rfl

theorem ends_unique {other : α} {end' : Desk} (one : Ends work before value after) (two : Ends work before other end') :
    value = other ∧ after = end' := by
  unfold Ends at one two
  rw [one, Prod.mk.injEq] at two
  exact two

theorem ends_pure_iff {given : α} : Ends (pure given) before value after ↔ given = value ∧ before = after :=
  Prod.ext_iff

theorem ends_bind_iff {next : α → Work β} {result : β} : Ends (work >>= next) before result after ↔
    ∃ value middle, Ends work before value middle ∧ Ends (next value) middle result after := by
  constructor
  · exact fun whole => ⟨_, _, rfl, whole⟩
  · intro held
    obtain ⟨value, middle, first, second⟩ := held
    unfold Ends at first second ⊢
    rw [StateT.run_bind, first]
    exact second

theorem ends_disk_iff {disk : Disk} : Ends Work.disk before disk after ↔ before.disk = disk ∧ before = after := Prod.ext_iff

theorem ends_tree_iff {tree : Tree} : Ends Work.tree before tree after ↔ before.disk.tree = tree ∧ before = after :=
  Prod.ext_iff

theorem ends_tellAll_iff {lines : Log} {done : Unit} :
    Ends (Work.tellAll lines) before done after ↔ { before with log := before.log ++ lines } = after := by
  unfold Ends
  constructor
  · exact fun told => congrArg Prod.snd told
  · intro same
    subst same
    rfl

theorem ends_tell_iff {severity : Severity} {message : Text} {done : Unit} :
    Ends (Work.tell severity message) before done after ↔
      { before with log := before.log ++ [⟨severity, message⟩] } = after := ends_tellAll_iff

end Work

namespace Job

variable {job : Job α}

theorem ends_unique {other : α} {end' : Desk} (one : Ends job before value after) (two : Ends job before other end') :
    value = other ∧ after = end' := by
  obtain ⟨same, there⟩ := Work.ends_unique one two
  exact ⟨Except.ok.inj same, there⟩

theorem ends_pure_iff {given : α} : Ends (pure given) before value after ↔ given = value ∧ before = after := by
  unfold Ends
  exact Prod.ext_iff.trans (and_congr_left fun _ => ok_inj)

theorem not_ends_throw {reason : Stopped} : ¬Ends (throw reason : Job α) before value after := by
  intro ended
  cases congrArg Prod.fst ended

theorem ends_bind_iff {next : α → Job β} {result : β} : Ends (job >>= next) before result after ↔
    ∃ value middle, Ends job before value middle ∧ Ends (next value) middle result after := by
  unfold Ends
  rw [ExceptT.run_bind, Work.ends_bind_iff]
  constructor
  · intro held
    obtain ⟨outcome, middle, first, second⟩ := held
    cases outcome with
    | error reason => cases congrArg Prod.fst second
    | ok value => exact ⟨value, middle, first, second⟩
  · intro held
    obtain ⟨value, middle, first, second⟩ := held
    exact ⟨.ok value, middle, first, second⟩

theorem ends_run_bind {next : α → Job β} {outcome : Except Stopped β} (ended : Work.Ends (job >>= next).run before outcome after) :
    (∃ reason, outcome = .error reason ∧ Work.Ends job.run before (.error reason) after) ∨
      ∃ value middle, Ends job before value middle ∧ Work.Ends (next value).run middle outcome after := by
  rw [ExceptT.run_bind, Work.ends_bind_iff] at ended
  obtain ⟨result, middle, first, second⟩ := ended
  cases result with
  | error reason =>
    cases second
    exact .inl ⟨reason, rfl, first⟩
  | ok value => exact .inr ⟨value, middle, first, second⟩

theorem ends_lift_iff {work : Work α} : Ends (liftM work) before value after ↔ Work.Ends work before value after := by
  change (Except.ok (StateT.run work before).1, (StateT.run work before).2) = (Except.ok value, after) ↔
    StateT.run work before = (value, after)
  constructor
  · intro lifted
    obtain ⟨same, there⟩ := Prod.ext_iff.mp lifted
    exact Prod.ext (ok_inj.mp same) there
  · intro ended
    rw [ended]

theorem ends_ofExcept_iff {result : Except Stopped α} :
    Ends (ofExcept result) before value after ↔ result = .ok value ∧ before = after := by
  cases result with
  | error reason => simpa [ofExcept] using not_ends_throw
  | ok given => simpa [ofExcept] using ends_pure_iff

theorem ends_ofDisk_iff {result : Except DiskFault α} :
    Ends (ofDisk result) before value after ↔ result = .ok value ∧ before = after := by
  rw [ofDisk, ends_ofExcept_iff, mapError_eq_ok_iff]

theorem ends_settled_iff {outcome : Except Stopped α} :
    Ends (settled job) before outcome after ↔ Work.Ends job.run before outcome after := ends_lift_iff

theorem not_ends_mishap {mishap : Mishap} : ¬Ends (Job.mishap mishap : Job α) before value after := not_ends_throw

theorem not_ends_fail {failure : Failure} : ¬Ends (Job.fail failure : Job α) before value after := not_ends_throw

end Job

-- Work and a job with a value that leave the disk as it is, whatever is in the log.
def Work.Keeps (work : Work α) (disk : Disk) (value : α) : Prop :=
  ∀ log, ∃ later, Ends work ⟨disk, log⟩ value ⟨disk, later⟩

def Job.Keeps (job : Job α) (disk : Disk) (value : α) : Prop := Work.Keeps job.run disk (.ok value)

namespace Work

variable {work : Work α} {disk : Disk}

theorem keeps_pure (value : α) : Keeps (pure value) disk value := fun log => ⟨log, rfl⟩

theorem keeps_bind {next : α → Work β} {result : β} (first : Keeps work disk value) (second : Keeps (next value) disk result) :
    Keeps (work >>= next) disk result := by
  intro log
  obtain ⟨middle, one⟩ := first log
  obtain ⟨later, two⟩ := second middle
  exact ⟨later, ends_bind_iff.mpr ⟨value, _, one, two⟩⟩

theorem Keeps.unique {other : α} (kept : Keeps work before.disk value) (ended : Ends work before other after) :
    other = value ∧ after.disk = before.disk := by
  obtain ⟨_, ran⟩ := kept before.log
  obtain ⟨same, rfl⟩ := ends_unique ended ran
  exact ⟨same, rfl⟩

theorem keeps_disk (disk : Disk) : Keeps Work.disk disk disk := fun log => ⟨log, rfl⟩

theorem keeps_tree (disk : Disk) : Keeps Work.tree disk disk.tree := fun log => ⟨log, rfl⟩

theorem keeps_tellAll (disk : Disk) (lines : Log) : Keeps (tellAll lines) disk () := fun log => ⟨log ++ lines, rfl⟩

theorem keeps_tell (disk : Disk) (severity : Severity) (message : Text) : Keeps (tell severity message) disk () :=
  fun _ => ⟨_, ends_tell_iff.mpr rfl⟩

end Work

namespace Job

variable {job : Job α} {disk : Disk}

theorem keeps_pure (value : α) : Keeps (pure value) disk value := fun log => ⟨log, rfl⟩

theorem keeps_run_bind {next : α → Job β} {outcome : Except Stopped β} (first : Keeps job disk value)
    (second : Work.Keeps (next value).run disk outcome) : Work.Keeps (job >>= next).run disk outcome := by
  rw [ExceptT.run_bind]
  exact Work.keeps_bind first second

theorem keeps_bind {next : α → Job β} {result : β} (first : Keeps job disk value) (second : Keeps (next value) disk result) :
    Keeps (job >>= next) disk result := keeps_run_bind first second

theorem keeps_stopped {next : α → Job β} {reason : Stopped} (first : Work.Keeps job.run disk (.error reason)) :
    Work.Keeps (job >>= next).run disk (.error reason) := by
  rw [ExceptT.run_bind]
  exact Work.keeps_bind first (Work.keeps_pure _)

theorem keeps_lift {work : Work α} (kept : Work.Keeps work disk value) : Keeps (liftM work) disk value := by
  intro log
  obtain ⟨later, ended⟩ := kept log
  exact ⟨later, ends_lift_iff.mpr ended⟩

theorem keeps_ofDisk {result : Except DiskFault α} (same : result = .ok value) : Keeps (ofDisk result) disk value :=
  fun log => ⟨log, ends_ofDisk_iff.mpr ⟨same, rfl⟩⟩

theorem keeps_map (change : α → β) {outcome : Except Stopped α} (kept : Work.Keeps job.run disk outcome) :
    Work.Keeps (job >>= fun value => pure (change value)).run disk (outcome.map change) := by
  cases outcome with
  | error reason => exact keeps_stopped kept
  | ok value => exact keeps_run_bind kept (keeps_pure _)

theorem keeps_throw (disk : Disk) (reason : Stopped) : Work.Keeps (throw reason : Job α).run disk (.error reason) :=
  fun log => ⟨log, rfl⟩

theorem keeps_ofExcept (disk : Disk) (result : Except Stopped α) : Work.Keeps (ofExcept result).run disk result := by
  cases result with
  | error reason => exact keeps_throw disk reason
  | ok value => exact keeps_pure value

theorem keeps_told (disk : Disk) (severity : Severity) (message : Text) (value : α) :
    Keeps (do Work.tell severity message; return value) disk value :=
  keeps_bind (keeps_lift (Work.keeps_tell disk severity message)) (keeps_pure value)

def Reads (job : Job α) : Prop := ∀ disk, ∃ outcome, Work.Keeps job.run disk outcome

theorem reads_pure (value : α) : Reads (pure value) := fun _ => ⟨_, keeps_pure value⟩

theorem reads_throw (reason : Stopped) : Reads (throw reason : Job α) := fun disk => ⟨_, keeps_throw disk reason⟩

theorem reads_bind {next : α → Job β} (first : Reads job) (second : ∀ value, Reads (next value)) : Reads (job >>= next) := by
  intro disk
  obtain ⟨outcome, kept⟩ := first disk
  cases outcome with
  | error reason => exact ⟨_, keeps_stopped kept⟩
  | ok value =>
    obtain ⟨result, later⟩ := second value disk
    exact ⟨result, keeps_run_bind kept later⟩

theorem reads_disk : Reads (liftM Work.disk) := fun disk => ⟨_, keeps_lift (Work.keeps_disk disk)⟩

theorem reads_tree : Reads (liftM Work.tree) := fun disk => ⟨_, keeps_lift (Work.keeps_tree disk)⟩

theorem reads_tellAll (lines : Log) : Reads (liftM (Work.tellAll lines)) := fun disk => ⟨_, keeps_lift (Work.keeps_tellAll disk lines)⟩

theorem reads_tell (severity : Severity) (message : Text) : Reads (liftM (Work.tell severity message)) := reads_tellAll _

theorem reads_ofExcept (result : Except Stopped α) : Reads (ofExcept result) := fun disk => ⟨_, keeps_ofExcept disk result⟩

theorem reads_ofDisk (result : Except DiskFault α) : Reads (ofDisk result) := reads_ofExcept _

theorem reads_settled (reads : Reads job) : Reads (settled job) := by
  intro disk
  obtain ⟨outcome, kept⟩ := reads disk
  exact ⟨.ok outcome, keeps_lift kept⟩

theorem disk_of_reads {outcome : Except Stopped α} (reads : Reads job) (ended : Work.Ends job.run before outcome after) :
    after.disk = before.disk := by
  obtain ⟨_, kept⟩ := reads before.disk
  exact (kept.unique ended).2

-- A job that is stopped by failures of these kinds and by mishaps, and by nothing else.
def StopsBy (kinds : List FailureKind) (job : Job α) : Prop :=
  ∀ before reason after, Work.Ends job.run before (.error reason) after → reason.IsOf kinds

variable {kinds wider : List FailureKind}

theorem StopsBy.mono (stops : StopsBy kinds job) (sub : kinds ⊆ wider) : StopsBy wider job :=
  fun before reason after ended => (stops before reason after ended).mono sub

theorem stopsBy_pure (value : α) : StopsBy kinds (pure value) := by
  intro before reason after ended
  cases congrArg Prod.fst ended

theorem stopsBy_bind {next : α → Job β} (first : StopsBy kinds job) (second : ∀ value, StopsBy kinds (next value)) :
    StopsBy kinds (job >>= next) := by
  intro before reason after ended
  rcases ends_run_bind ended with ⟨_, same, stopped⟩ | ⟨value, middle, -, went⟩
  · cases same
    exact first before reason after stopped
  · exact second value middle reason after went

theorem stopsBy_lift (work : Work α) : StopsBy kinds (liftM work) := by
  intro before reason after ended
  cases congrArg Prod.fst ended

theorem stopsBy_settled (job : Job α) : StopsBy kinds (settled job) := stopsBy_lift _

theorem stopsBy_throw {reason : Stopped} (listed : reason.IsOf kinds) : StopsBy kinds (throw reason : Job α) := by
  intro before other after ended
  cases congrArg Prod.fst ended
  exact listed

theorem stopsBy_mishap (mishap : Mishap) : StopsBy kinds (Job.mishap mishap : Job α) := by
  have listed : (Stopped.mishap mishap).IsOf kinds := trivial
  exact stopsBy_throw listed

theorem stopsBy_ofExcept {result : Except Stopped α} (listed : ∀ reason, result = .error reason → reason.IsOf kinds) :
    StopsBy kinds (ofExcept result) := by
  cases result with
  | error reason => exact stopsBy_throw (listed reason rfl)
  | ok value => exact stopsBy_pure value

theorem stopsBy_ofDisk (result : Except DiskFault α) : StopsBy kinds (ofDisk result) := by
  cases result with
  | error fault => exact stopsBy_mishap (.disk fault)
  | ok value => exact stopsBy_pure value

end Job

end ChangeCapture
