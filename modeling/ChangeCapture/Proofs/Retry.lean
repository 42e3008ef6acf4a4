import ChangeCapture.Retry
import Mathlib.Data.List.Iterate
import Mathlib.Order.Bounds.Image

namespace ChangeCapture.Retry

variable {σ ε α : Type} {retried : ε → Bool} {action : σ → Except ε α × σ} {state : σ}

-- A success, or a failure that is not tried again.
def Settles (retried : ε → Bool) (outcome : Except ε α) : Prop := ∀ failure, outcome = .error failure → ¬retried failure

theorem settles_or_retried (retried : ε → Bool) (outcome : Except ε α) :
    Settles retried outcome ∨ ∃ failure, outcome = .error failure ∧ retried failure := by
  cases outcome with
  | ok value => exact .inl nofun
  | error failure =>
    by_cases again : retried failure
    · exact .inr ⟨failure, rfl, again⟩
    · refine .inl fun other same => ?_
      cases same
      exact again

def settling (retried : ε → Bool) (outcomes : Nat → Except ε α) : Set Nat :=
  {call | ∃ earlier, call = earlier + 1 ∧ Settles retried (outcomes earlier)}

theorem settling_of_retried {outcomes : Nat → Except ε α} {failure : ε} (refused : outcomes 0 = .error failure)
    (again : retried failure) : settling retried outcomes = Nat.succ '' settling retried fun earlier => outcomes (earlier + 1) := by
  ext call
  constructor
  · rintro ⟨earlier, rfl, settles⟩
    cases earlier with
    | zero => exact absurd again (settles failure refused)
    | succ earlier => exact ⟨earlier + 1, ⟨earlier, rfl, settles⟩, rfl⟩
  · rintro ⟨_, ⟨earlier, rfl, settles⟩, rfl⟩
    exact ⟨earlier + 1, rfl, settles⟩

-- What an action leaves behind after some calls, and how its calls end, one after the other without end.

def after (action : σ → Except ε α × σ) (state : σ) (calls : Nat) : σ := (fun state => (action state).2)^[calls] state

def outcomes (action : σ → Except ε α × σ) (state : σ) (earlier : Nat) : Except ε α := (action (after action state earlier)).1

def replay (outcomes : Nat → Except ε α) (calls : Nat) : Except ε α × Nat := (outcomes calls, calls + 1)

theorem after_replay (outcomes : Nat → Except ε α) (start calls : Nat) : after (replay outcomes) start calls = start + calls := by
  induction calls generalizing start with
  | zero => rfl
  | succ calls ih => exact (ih (start + 1)).trans (Nat.succ_add_eq_add_succ start calls)

theorem outcomes_replay (sequence : Nat → Except ε α) : outcomes (replay sequence) 0 = sequence := by
  funext earlier
  rw [outcomes, after_replay, Nat.zero_add, replay]

-- The failures that a run goes on from when so many calls may follow the first one.
inductive Retries (retried : ε → Bool) (action : σ → Except ε α × σ) : Nat → σ → List ε → Prop where
  | last {left : Nat} {state : σ} (final : left = 0 ∨ Settles retried (action state).1) : Retries retried action left state []
  | again {left : Nat} {state : σ} {failure : ε} {failures : List ε} (refused : (action state).1 = .error failure)
      (again : retried failure) (rest : Retries retried action left (action state).2 failures) :
      Retries retried action (left + 1) state (failure :: failures)

theorem exists_retries (retried : ε → Bool) (action : σ → Except ε α × σ) (left : Nat) (state : σ) :
    ∃ failures, Retries retried action left state failures := by
  induction left generalizing state with
  | zero => exact ⟨[], .last (.inl rfl)⟩
  | succ left ih =>
    rcases settles_or_retried retried (action state).1 with settles | ⟨failure, refused, again⟩
    · exact ⟨[], .last (.inr settles)⟩
    · obtain ⟨failures, rest⟩ := ih (action state).2
      exact ⟨failure :: failures, .again refused again rest⟩

theorem Retries.outcomes_eq {left : Nat} {failures : List ε} (retries : Retries retried action left state failures) :
    (List.range failures.length).map (outcomes action state) = failures.map .error := by
  induction retries with
  | last => rfl
  | again refused _ _ ih =>
    rw [List.length_cons, List.range_succ_eq_map, List.map_cons, List.map_map, List.map_cons, ← ih]
    exact congrArg (· :: _) refused

theorem Retries.isLeast {left : Nat} {failures : List ε} (retries : Retries retried action left state failures) :
    IsLeast (insert (left + 1) (settling retried (outcomes action state))) (failures.length + 1) := by
  induction retries with
  | last final =>
    constructor
    · rcases final with rfl | settles
      · exact Set.mem_insert _ _
      · exact Set.mem_insert_of_mem _ ⟨0, rfl, settles⟩
    · rintro call (rfl | ⟨earlier, rfl, -⟩) <;> exact Nat.succ_le_succ (Nat.zero_le _)
  | again refused again _ ih =>
    rw [settling_of_retried refused again, ← Nat.succ_eq_add_one, ← Set.image_insert_eq]
    exact Monotone.map_isLeast (fun _ _ => Nat.succ_le_succ) ih

def warnings (name : Text) (describe : ε → Text) (attempts : Nat) (backoff : Binary64) (call : Nat) (pause : Binary64)
    (failures : List ε) : Log :=
  failures.mapIdx fun earlier failure =>
    pausing name attempts (call + earlier) (describe failure) ((·.mul backoff)^[earlier] pause)

def closing (name : Text) (retried : ε → Bool) (describe : ε → Text) (attempts : Nat) : Except ε α → Log
  | .ok _ => []
  | .error failure => if retried failure then [givingUp name attempts (describe failure)] else []

section

variable (name : Text) (describe : ε → Text) (attempts : Nat) (backoff : Binary64)

theorem warnings_cons (call : Nat) (pause : Binary64) (failure : ε) (failures : List ε) :
    warnings name describe attempts backoff call pause (failure :: failures) =
      pausing name attempts call (describe failure) pause ::
        warnings name describe attempts backoff (call + 1) (pause.mul backoff) failures := by
  simp only [warnings, List.mapIdx_cons, ← Nat.add_assoc, Nat.add_right_comm call _ 1]
  rfl

theorem countP_warnings (call : Nat) (pause : Binary64) (failures : List ε) :
    (warnings name describe attempts backoff call pause failures).countP (·.severity = .warning) = failures.length := by
  rw [warnings, List.countP_eq_length.mpr, List.length_mapIdx]
  intro line member
  obtain ⟨earlier, inside, rfl⟩ := List.mem_mapIdx.mp member
  rfl

theorem countP_closing (retried : ε → Bool) (outcome : Except ε α) :
    (closing name retried describe attempts outcome).countP (·.severity = .warning) = 0 := by
  unfold closing
  split
  · rfl
  · split <;> rfl

theorem attempt_of_last {left : Nat} (final : left = 0 ∨ Settles retried (action state).1) (call : Nat) (pause : Binary64) :
    attempt name retried describe action attempts backoff left call pause state =
      ⟨(action state).2, (action state).1, 1, [], closing name retried describe attempts (action state).1⟩ := by
  unfold attempt
  split
  · rename_i same
    rw [same]
    rfl
  · rename_i failure next same
    rw [same] at final ⊢
    split
    · rename_i again
      rcases final with rfl | settles
      · simp only [closing, again, if_true]
      · exact absurd again (settles failure rfl)
    · rename_i final
      rw [closing, if_neg final]

theorem attempt_of_retried {failure : ε} (refused : (action state).1 = .error failure) (again : retried failure) (left call : Nat)
    (pause : Binary64) :
    attempt name retried describe action attempts backoff (left + 1) call pause state =
      let later := attempt name retried describe action attempts backoff left (call + 1) (pause.mul backoff) (action state).2
      ⟨later.state, later.result, later.calls + 1, pause :: later.pauses,
        pausing name attempts call (describe failure) pause :: later.log⟩ := by
  have same : action state = (.error failure, (action state).2) := Prod.ext refused rfl
  rw [attempt, same]
  dsimp only
  rw [if_pos again]

theorem attempt_of_retries {left : Nat} {failures : List ε} (retries : Retries retried action left state failures) (call : Nat)
    (pause : Binary64) :
    attempt name retried describe action attempts backoff left call pause state =
      ⟨after action state (failures.length + 1), outcomes action state failures.length, failures.length + 1,
        List.iterate (·.mul backoff) pause failures.length,
        warnings name describe attempts backoff call pause failures ++
          closing name retried describe attempts (outcomes action state failures.length)⟩ := by
  induction retries generalizing call pause with
  | last final => exact attempt_of_last name describe attempts backoff final call pause
  | again refused again _ ih =>
    rw [attempt_of_retried name describe attempts backoff refused again, ih, warnings_cons]
    rfl

end

theorem run_standard (name : Text) (retried : ε → Bool) (describe : ε → Text) (action : σ → Except ε α × σ) (state : σ) :
    run .standard name retried describe action state =
      { twice name retried describe action state with result := some (twice name retried describe action state).result } := rfl

theorem twice_cases (name : Text) (retried : ε → Bool) (describe : ε → Text) (action : σ → Except ε α × σ) (state : σ) :
    (action state = ((twice name retried describe action state).result, (twice name retried describe action state).state) ∧
      ∀ failure, (twice name retried describe action state).result = .error failure → ¬retried failure) ∨
    ∃ failure middle, retried failure ∧ action state = (.error failure, middle) ∧
      action middle = ((twice name retried describe action state).result, (twice name retried describe action state).state) := by
  obtain ⟨failures, retries⟩ := exists_retries retried action 1 state
  rw [twice, attempt_of_retries name describe 2 _ retries]
  cases retries with
  | last final => exact .inl ⟨rfl, final.resolve_left Nat.one_ne_zero⟩
  | again refused again rest =>
    cases rest with
    | last => exact .inr ⟨_, (action state).2, again, Prod.ext refused rfl, rfl⟩

theorem run_of_retries {policy : Policy} {left : Nat} {failures : List ε} (allows : policy.attempts.toNat = left + 1)
    (retries : Retries retried action left state failures) (name : Text) (describe : ε → Text) :
    run policy name retried describe action state =
      ⟨after action state (failures.length + 1), some (outcomes action state failures.length), failures.length + 1,
        List.iterate (·.mul policy.backoff) policy.delay failures.length,
        warnings name describe policy.attempts.toNat policy.backoff 1 policy.delay failures ++
          closing name retried describe policy.attempts.toNat (outcomes action state failures.length)⟩ := by
  rw [run, allows]
  dsimp only
  rw [attempt_of_retries name describe (left + 1) policy.backoff retries]

-- A run calls its action up to the first call that settles, or up to the last one allowed, and ends as that
-- call does. Before each further call it tells of the failure and asks for a pause.
theorem run_of_outcomes (policy : Policy) (allowed : 1 ≤ policy.attempts) (name : Text) (retried : ε → Bool)
    (describe : ε → Text) (action : σ → Except ε α × σ) (state : σ) :
    ∃ failures : List ε,
      IsLeast (insert policy.attempts.toNat (settling retried (outcomes action state))) (failures.length + 1) ∧
      (List.range failures.length).map (outcomes action state) = failures.map .error ∧
      run policy name retried describe action state =
        ⟨after action state (failures.length + 1), some (outcomes action state failures.length), failures.length + 1,
          List.iterate (·.mul policy.backoff) policy.delay failures.length,
          warnings name describe policy.attempts.toNat policy.backoff 1 policy.delay failures ++
            closing name retried describe policy.attempts.toNat (outcomes action state failures.length)⟩ ∧
      (run policy name retried describe action state).pauses.length = failures.length ∧
      (run policy name retried describe action state).log.countP (·.severity = .warning) = failures.length := by
  obtain ⟨left, allows⟩ : ∃ left, policy.attempts.toNat = left + 1 := Nat.exists_eq_succ_of_ne_zero (by omega)
  obtain ⟨failures, retries⟩ := exists_retries retried action left state
  have ran := run_of_retries allows retries name describe
  refine ⟨failures, ?_, retries.outcomes_eq, ran, ?_, ?_⟩
  · rw [allows]
    exact retries.isLeast
  · rw [ran, List.length_iterate]
  · rw [ran, List.countP_append, countP_warnings, countP_closing, Nat.add_zero]

def patient : Policy := { Policy.standard with attempts := 5 }

def isBusy (failure : Text) : Bool := failure = "busy"

def flaky (earlier : Nat) : Except Text Unit := .error (if earlier < 2 then "busy" else "full")

theorem isLeast_flaky : IsLeast (insert 5 (settling isBusy flaky)) 3 := by
  constructor
  · exact Set.mem_insert_of_mem _ ⟨2, rfl, by rintro failure ⟨⟩; decide⟩
  · rintro call (rfl | ⟨earlier, rfl, settles⟩)
    · decide
    · by_contra early
      have few : earlier < 2 := by omega
      exact settles "busy" (by rw [flaky, if_pos few]) rfl

theorem run_of_flaky :
    1 ≤ patient.attempts ∧ IsLeast (insert patient.attempts.toNat (settling isBusy flaky)) 3 ∧
      ∃ log, run patient "_replace" isBusy id (replay flaky) 0 =
        ⟨3, some (.error "full"), 3, [.ofDecimal false 1 (-1), .ofDecimal false 2 (-1)], log⟩ ∧
        log.countP (·.severity = .warning) = 2 := by
  refine ⟨by decide, isLeast_flaky, ?_⟩
  obtain ⟨failures, least, -, ran, -, count⟩ := run_of_outcomes patient (by decide) "_replace" isBusy id (replay flaky) 0
  rw [outcomes_replay] at least ran
  have two : failures.length = 2 := Nat.succ_inj.mp (least.unique isLeast_flaky)
  rw [ran] at count
  rw [two] at ran count
  exact ⟨_, ran, count⟩

end ChangeCapture.Retry
