import ChangeCapture.Proofs.Outcome
import ChangeCapture.Yaml.Cursor

namespace ChangeCapture.Yaml

variable {σ α β γ : Type} {told wider : Fault → Prop} {post later : α → Prop} {result : Except Fault α}

-- A value that `post` holds of, or a fault that is `told`.
def Fine (told : Fault → Prop) (result : Except Fault α) (post : α → Prop) : Prop :=
  (∀ fault, result = .error fault → told fault) ∧ ∀ value, result = .ok value → post value

theorem fine_ok {value : α} (holds : post value) : Fine told (.ok value) post := by
  refine ⟨nofun, ?_⟩
  intro _ same
  cases same
  exact holds

theorem fine_error {fault : Fault} (listed : told fault) : Fine told (.error fault) post := by
  refine ⟨?_, nofun⟩
  intro _ same
  cases same
  exact listed

theorem Fine.bind {next : α → Except Fault β} {last : β → Prop} (first : Fine told result post)
    (second : ∀ value, post value → Fine told (next value) last) : Fine told (result >>= next) last := by
  obtain ⟨ofError, ofOk⟩ := first
  cases result with
  | error fault => exact fine_error (ofError fault rfl)
  | ok value => exact second value (ofOk value rfl)

theorem Fine.map {change : α → β} {last : β → Prop} (first : Fine told result post)
    (second : ∀ value, post value → last (change value)) : Fine told (result.map change) last := by
  obtain ⟨ofError, ofOk⟩ := first
  cases result with
  | error fault => exact fine_error (ofError fault rfl)
  | ok value => exact fine_ok (second value (ofOk value rfl))

theorem Fine.mono (fine : Fine told result post) (listed : ∀ fault, told fault → wider fault)
    (holds : ∀ value, post value → later value) : Fine wider result later :=
  ⟨fun fault same => listed fault (fine.1 fault same), fun value same => holds value (fine.2 value same)⟩

theorem fine_ite {holds : Prop} [Decidable holds] {other : Except Fault α} (first : holds → Fine told result post)
    (second : ¬holds → Fine told other post) : Fine told (if holds then result else other) post := by
  split
  · exact first ‹_›
  · exact second ‹_›

variable {inv : σ → Prop}

-- A step that keeps an invariant of its state and is fine in every state that has it.
def Sound (inv : σ → Prop) (told : Fault → Prop) (step : StateT σ (Except Fault) α) (post : α → Prop) : Prop :=
  ∀ state, inv state → Fine told (step.run state) fun found => post found.1 ∧ inv found.2

theorem sound_pure {value : α} (holds : post value) : Sound inv told (pure value) post := fun _ kept => fine_ok ⟨holds, kept⟩

theorem sound_throw {fault : Fault} (listed : told fault) : Sound inv told (throw fault) post := fun _ _ => fine_error listed

theorem sound_bind {step : StateT σ (Except Fault) α} {next : α → StateT σ (Except Fault) β} {last : β → Prop}
    (first : Sound inv told step post) (second : ∀ value, post value → Sound inv told (next value) last) :
    Sound inv told (step >>= next) last := by
  intro state kept
  rw [StateT.run_bind]
  exact (first state kept).bind fun found held => second found.1 held.1 found.2 held.2

theorem sound_get : Sound inv told get inv := fun _ kept => fine_ok ⟨kept, kept⟩

theorem sound_set {state : σ} (kept : inv state) : Sound inv told (set state) fun _ => True := fun _ _ => fine_ok ⟨trivial, kept⟩

theorem sound_modify {change : σ → σ} (keeps : ∀ state, inv state → inv (change state)) :
    Sound inv told (modify change) fun _ => True := fun state kept => fine_ok ⟨trivial, keeps state kept⟩

theorem sound_lift (fine : Fine told result post) : Sound inv told (liftM result) post := by
  intro state kept
  obtain ⟨ofError, ofOk⟩ := fine
  cases result with
  | error fault => exact fine_error (ofError fault rfl)
  | ok value => exact fine_ok ⟨ofOk value rfl, kept⟩

theorem sound_mapM {items : List γ} {step : γ → StateT σ (Except Fault) β}
    (each : ∀ item ∈ items, Sound inv told (step item) fun _ => True) : Sound inv told (items.mapM step) fun _ => True := by
  induction items with
  | nil => exact sound_pure trivial
  | cons item rest ih =>
    rw [List.mapM_cons]
    refine sound_bind (each item (List.mem_cons_self ..)) fun _ _ => ?_
    refine sound_bind (ih fun item member => each item (List.mem_cons_of_mem _ member)) fun _ _ => ?_
    exact sound_pure trivial

theorem sound_forM {items : List γ} {step : γ → StateT σ (Except Fault) Unit}
    (each : ∀ item ∈ items, Sound inv told (step item) fun _ => True) : Sound inv told (items.forM step) fun _ => True := by
  induction items with
  | nil => exact sound_pure trivial
  | cons item rest ih =>
    refine sound_bind (each item (List.mem_cons_self ..)) fun _ _ => ?_
    exact ih fun item member => each item (List.mem_cons_of_mem _ member)

end ChangeCapture.Yaml
