import ChangeCapture.Contract.Verification
import ChangeCapture.Proofs.Registry.Building
import ChangeCapture.Proofs.Spec.Sample

namespace ChangeCapture

def Projector.after (projector : Projector) (flows : List Json) : Projector :=
  flows.foldl (fun projector flow => (projector.run flow).2) projector

theorem Projector.exists_after_eq (projector : Projector) (flows : List Json) :
    ∃ repairs, projector.after flows = { projector with repairs := repairs } := by
  induction flows generalizing projector with
  | nil => exact ⟨projector.repairs, rfl⟩
  | cons flow rest ih =>
    obtain ⟨repairs, after⟩ := ih (projector.run flow).2
    exact ⟨repairs, after⟩

theorem Projector.run_after (projector : Projector) (flows : List Json) (flow : Json) :
    (projector.after flows).run flow = projector.run flow := by
  obtain ⟨repairs, after⟩ := projector.exists_after_eq flows
  rw [after]
  rfl

namespace Verifier

variable {verifier after : Verifier} {count : Nat}

-- What a verifier can be after so many runs. One that was stopped keeps some of what it
-- had found by then.
inductive After (verifier : Verifier) : Nat → Verifier → Prop where
  | new : After verifier 0 verifier
  | finished {count : Nat} {before after : Verifier} (earlier : After verifier count before)
      (ran : before.run = .ok after) : After verifier (count + 1) after
  | stopped {count : Nat} {before : Verifier} {stop : Contract.CollectionId} (earlier : After verifier count before)
      (ran : before.run = .error stop) (found : List Violation) :
      After verifier (count + 1) { before with found := before.found ++ found }

def finds (verifier : Verifier) : Except Contract.CollectionId (List Violation) :=
  Contract.violations verifier.specs verifier.registry verifier.flow

theorem run_of_finds {violations : List Violation} (finds : verifier.finds = .ok violations) :
    verifier.run = .ok { verifier with found := verifier.found ++ violations } := by
  simp only [Verifier.finds] at finds
  simp only [run, finds, Except.map]

theorem run_of_stop {stop : Contract.CollectionId} (stops : verifier.finds = .error stop) : verifier.run = .error stop := by
  simp only [finds] at stops
  simp only [run, stops, Except.map]

theorem After.finds_eq (earlier : After verifier count after) : after.finds = verifier.finds := by
  induction earlier with
  | new => rfl
  | @finished _ before _ _ ran ih =>
    cases found : before.finds with
    | error stop => cases (run_of_stop found).symm.trans ran
    | ok violations =>
      cases (run_of_finds found).symm.trans ran
      exact ih
  | stopped _ _ _ ih => exact ih

theorem After.eq_of_finds {violations : List Violation} (earlier : After verifier count after)
    (finds : verifier.finds = .ok violations) :
    after = { verifier with found := verifier.found ++ (List.replicate count violations).flatten } := by
  induction earlier with
  | new => simp
  | finished earlier ran ih =>
    cases (run_of_finds (earlier.finds_eq.trans finds)).symm.trans ran
    rw [ih, List.replicate_succ', List.flatten_concat, List.append_assoc]
  | stopped earlier ran => cases (run_of_finds (earlier.finds_eq.trans finds)).symm.trans ran

theorem After.run_eq {violations : List Violation} (earlier : After verifier count after)
    (finds : verifier.finds = .ok violations) :
    after.run = .ok { verifier with found := verifier.found ++ (List.replicate (count + 1) violations).flatten } := by
  rw [run_of_finds (earlier.finds_eq.trans finds), earlier.eq_of_finds finds, List.append_assoc, List.replicate_succ',
    List.flatten_concat]

theorem After.run_eq_iff (earlier : After verifier count after) :
    after.run = verifier.run ↔ count = 0 ∨ ∀ violations, verifier.finds = .ok violations → violations = [] := by
  cases finds : verifier.finds with
  | error stop => simp [run_of_stop finds, run_of_stop (earlier.finds_eq.trans finds)]
  | ok violations =>
    rw [earlier.run_eq finds, run_of_finds finds]
    simp only [Except.ok.injEq, mk.injEq, true_and, List.append_cancel_left_eq, forall_eq']
    rw [List.replicate_succ, List.flatten_cons, List.append_right_eq_self, List.flatten_eq_nil_iff]
    simp only [List.mem_replicate, ne_eq, and_imp, forall_eq_apply_imp_iff]
    exact Decidable.imp_iff_not_or.trans (or_congr_left not_not)

theorem exists_after (verifier : Verifier) (count : Nat) : ∃ after, After verifier count after := by
  induction count with
  | zero => exact ⟨verifier, .new⟩
  | succ count ih =>
    obtain ⟨before, earlier⟩ := ih
    cases ran : before.run with
    | error stop => exact ⟨_, .stopped earlier ran []⟩
    | ok after => exact ⟨after, .finished earlier ran⟩

end Verifier

namespace Contract

-- A projector forgets its last run when the next one begins. A verifier keeps what it has
-- found: it answers as a new one does only in its first run, or where there is nothing to
-- find, or where every run is stopped.
theorem reused_iff (projector : Projector) (flows : List Json) (flow : Json) (verifier : Verifier) (count : Nat) :
    (projector.after flows).run flow = projector.run flow ∧ (∃ after, verifier.After count after) ∧
      ∀ after, verifier.After count after →
        (∀ stop, verifier.finds = .error stop → after.run = .error stop) ∧
        (∀ found, verifier.finds = .ok found →
          after.run = .ok { verifier with found := verifier.found ++ (List.replicate (count + 1) found).flatten }) ∧
        (after.run = verifier.run ↔ count = 0 ∨ ∀ found, verifier.finds = .ok found → found = []) := by
  refine ⟨projector.run_after flows flow, verifier.exists_after count, fun after earlier => ⟨?_, ?_, ?_⟩⟩
  · intro stop stops
    exact Verifier.run_of_stop (earlier.finds_eq.trans stops)
  · intro found finds
    exact earlier.run_eq finds
  · exact earlier.run_eq_iff

def flowless : Verifier where
  specs := [Spec.Sample.small]
  registry := Registry.toJson [Registry.item Spec.Sample.small "5m"]
  flow := .null
  found := []

def noContents : Violation := ⟨.i8, "flowContents", "flow document has no flowContents object"⟩

theorem finds_flowless : flowless.finds = .ok [noContents] := by decide +kernel

theorem reused_of_flowless :
    ∃ after, flowless.After 1 after ∧ after.run = .ok { flowless with found := [noContents, noContents] } := by
  obtain ⟨-, ⟨after, earlier⟩, reused⟩ :=
    reused_iff ⟨[Registry.item Spec.Sample.small "5m"], flowless.specs, none, []⟩ [.null] .null flowless 1
  exact ⟨after, earlier, (reused after earlier).2.1 _ finds_flowless⟩

theorem found_again : ∃ after, flowless.After 1 after ∧ after.run ≠ flowless.run := by
  have once := Verifier.After.finished .new (Verifier.run_of_finds finds_flowless)
  refine ⟨_, once, fun same => ?_⟩
  rcases once.run_eq_iff.mp same with first | nothing
  · exact absurd first (by decide)
  · exact List.cons_ne_nil _ _ (nothing _ finds_flowless)

end Contract

end ChangeCapture
