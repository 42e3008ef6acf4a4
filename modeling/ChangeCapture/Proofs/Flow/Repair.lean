import ChangeCapture.Flow.Repair

namespace ChangeCapture.Repaired

variable {ε α β : Type} {first : Repaired ε α} {next : α → Repaired ε β}

theorem bind_eq_ok_iff {value : β} : (first >>= next).outcome = .ok value ↔
    ∃ middle, first.outcome = .ok middle ∧ (next middle).outcome = .ok value := by
  change (andThen first next).outcome = .ok value ↔ _
  unfold andThen
  split
  · rename_i reason stopped
    simp [stopped]
  · rename_i middle passed
    simp [passed]

@[simp] theorem done_bind (value : α) (next : α → Repaired ε β) : (done value >>= next) = next value := rfl

@[simp] theorem pure_eq_done (value : α) : (pure value : Repaired ε α) = done value := rfl

@[simp] theorem outcome_done (value : α) : (done value : Repaired ε α).outcome = .ok value := rfl

@[simp] theorem outcome_note (kind : RepairKind) (target detail : Text) (value : α) :
    (note kind target detail value : Repaired ε α).outcome = .ok value := rfl

@[simp] theorem outcome_stop (reason : ε) : (stop reason : Repaired ε α).outcome = .error reason := rfl

theorem bind_of_error {reason : ε} (stopped : first.outcome = .error reason) : (first >>= next).outcome = .error reason := by
  change (andThen first next).outcome = .error reason
  simp [andThen, stopped]

theorem repairs_bind {middle : α} (made : first.outcome = .ok middle) :
    (first >>= next).repairs = first.repairs ++ (next middle).repairs := by
  change (andThen first next).repairs = _
  simp only [andThen, made]

-- A step that has a value and puts right nothing but what is allowed.
structure Yields (allowed : Repair → Prop) (step : Repaired ε α) (value : α) : Prop where
  outcome : step.outcome = .ok value
  repairs : ∀ repair ∈ step.repairs, allowed repair

theorem yields_done {allowed : Repair → Prop} (value : α) : Yields allowed (done value : Repaired ε α) value :=
  ⟨rfl, by simp [done]⟩

theorem Yields.bind {allowed : Repair → Prop} {middle : α} {value : β} (head : Yields allowed first middle)
    (tail : Yields allowed (next middle) value) : Yields allowed (first >>= next) value := by
  refine ⟨bind_eq_ok_iff.mpr ⟨middle, head.outcome, tail.outcome⟩, fun repair member => ?_⟩
  rw [repairs_bind head.outcome, List.mem_append] at member
  exact member.elim (head.repairs repair) (tail.repairs repair)

def Notes (allowed : Repair → Prop) (step : Repaired ε α) : Prop := ∀ repair ∈ step.repairs, allowed repair

theorem notes_done {allowed : Repair → Prop} {value : α} : Notes allowed (done value : Repaired ε α) := by simp [Notes, done]

theorem notes_stop {allowed : Repair → Prop} {reason : ε} : Notes allowed (stop reason : Repaired ε α) := by simp [Notes, stop]

theorem notes_note {allowed : Repair → Prop} {kind : RepairKind} {target detail : Text} {value : α}
    (is : allowed ⟨kind, target, detail⟩) : Notes allowed (note kind target detail value : Repaired ε α) := by simpa [Notes, note] using is

theorem Notes.bind {allowed : Repair → Prop} (head : Notes allowed first) (tail : ∀ value, Notes allowed (next value)) :
    Notes allowed (first >>= next) := by
  intro repair member
  cases made : first.outcome with
  | error reason =>
    change repair ∈ (andThen first next).repairs at member
    simp only [andThen, made] at member
    exact head repair member
  | ok value =>
    rw [repairs_bind made, List.mem_append] at member
    exact member.elim (head repair) (tail value repair)

-- What the value of a step is like when nothing was put right on the way to it.
structure Quiet (left : α → Prop) (step : Repaired ε α) : Prop where
  left : step.repairs = [] → ∀ value, step.outcome = .ok value → left value

theorem quiet_done {left : α → Prop} {value : α} (held : left value) : Quiet left (done value : Repaired ε α) := by
  refine ⟨fun _ other made => ?_⟩
  cases made
  exact held

theorem quiet_stop {left : α → Prop} {reason : ε} : Quiet left (stop reason : Repaired ε α) := by
  refine ⟨fun _ other made => ?_⟩
  cases made

theorem quiet_note {left : α → Prop} {kind : RepairKind} {target detail : Text} {value : α} :
    Quiet left (note kind target detail value : Repaired ε α) := by
  refine ⟨fun silent => ?_⟩
  cases silent

theorem Quiet.bind {middle : α → Prop} {left : β → Prop} (head : Quiet middle first)
    (tail : ∀ value, middle value → Quiet left (next value)) : Quiet left (first >>= next) := by
  refine ⟨fun silent result made => ?_⟩
  obtain ⟨value, passed, later⟩ := bind_eq_ok_iff.mp made
  rw [repairs_bind passed, List.append_eq_nil_iff] at silent
  exact (tail value (head.left silent.1 value passed)).left silent.2 result later

def Succeeds (step : Repaired ε α) : Prop := ∃ value, step.outcome = .ok value

theorem succeeds_bind_iff : (first >>= next).Succeeds ↔ ∃ value, first.outcome = .ok value ∧ (next value).Succeeds := by
  simp only [Succeeds, bind_eq_ok_iff]
  constructor
  · intro held
    obtain ⟨result, value, made, later⟩ := held
    exact ⟨value, made, result, later⟩
  · intro held
    obtain ⟨value, made, result, later⟩ := held
    exact ⟨result, value, made, later⟩

theorem succeeds_bind (succeeds : first.Succeeds) (later : ∀ value, first.outcome = .ok value → (next value).Succeeds) :
    (first >>= next).Succeeds := by
  obtain ⟨value, made⟩ := succeeds
  exact succeeds_bind_iff.mpr ⟨value, made, later value made⟩

theorem succeeds_done (value : α) : (done value : Repaired ε α).Succeeds := ⟨value, rfl⟩

theorem succeeds_note (kind : RepairKind) (target detail : Text) (value : α) :
    (note kind target detail value : Repaired ε α).Succeeds := ⟨value, rfl⟩

theorem not_succeeds_stop (reason : ε) : ¬ (stop reason : Repaired ε α).Succeeds := by
  intro held
  obtain ⟨value, made⟩ := held
  cases made

end ChangeCapture.Repaired
