import ChangeCapture.Log
import ChangeCapture.Number.Shortest

namespace ChangeCapture

namespace Retry

-- How often an action is tried in all, the seconds before the second attempt, and
-- the factor that each later pause grows by.
structure Policy where
  attempts : Int
  delay : Binary64
  backoff : Binary64

def Policy.standard : Policy := ⟨2, .ofDecimal false 1 (-1), .ofInt 2⟩

structure Run (σ ρ : Type) where
  state : σ
  result : ρ
  calls : Nat
  pauses : List Binary64
  log : Log

section

variable {σ ε α : Type}

def pausing (name : Text) (attempts call : Nat) (reason : Text) (pause : Binary64) : LogLine :=
  ⟨.warning, "Attempt " ++ Text.ofNat call ++ "/" ++ Text.ofNat attempts ++ " failed for " ++ name ++ ": " ++
    reason ++ ". Retrying in " ++ pause.writeTwoPlaces ++ " seconds..."⟩

def givingUp (name : Text) (attempts : Nat) (reason : Text) : LogLine :=
  ⟨.error, "All " ++ Text.ofNat attempts ++ " attempts failed for " ++ name ++ ": " ++ reason⟩

-- The attempts from call number `call` on, of which `left` more may follow it. A
-- failure of another kind than the retried ones ends the run at once and unlogged.
def attempt (name : Text) (retried : ε → Bool) (describe : ε → Text) (action : σ → Except ε α × σ)
    (attempts : Nat) (backoff : Binary64) : (left call : Nat) → Binary64 → σ → Run σ (Except ε α)
  | left, call, pause, state =>
    match action state with
    | (.ok value, state) => ⟨state, .ok value, 1, [], []⟩
    | (.error failure, state) =>
      if retried failure then
        match left with
        | 0 => ⟨state, .error failure, 1, [], [givingUp name attempts (describe failure)]⟩
        | left + 1 =>
          let later := attempt name retried describe action attempts backoff left (call + 1)
            (pause.mul backoff) state
          { later with
            calls := later.calls + 1
            pauses := pause :: later.pauses
            log := pausing name attempts call (describe failure) pause :: later.log }
      else ⟨state, .error failure, 1, [], []⟩

def run (policy : Policy) (name : Text) (retried : ε → Bool) (describe : ε → Text)
    (action : σ → Except ε α × σ) (state : σ) : Run σ (Option (Except ε α)) :=
  match policy.attempts.toNat with
  | 0 => ⟨state, none, 0, [], []⟩
  | left + 1 =>
    let tried := attempt name retried describe action (left + 1) policy.backoff left 1 policy.delay state
    { tried with result := some tried.result }

def twice (name : Text) (retried : ε → Bool) (describe : ε → Text) (action : σ → Except ε α × σ) (state : σ) :
    Run σ (Except ε α) :=
  attempt name retried describe action 2 Policy.standard.backoff 1 1 Policy.standard.delay state

end

end Retry

end ChangeCapture
