import ChangeCapture.Proofs.Flow.Canonical
import ChangeCapture.Proofs.Outcome

namespace ChangeCapture.Projection

variable {registry : Registry} {specs : List Spec} {first : Option Text} {flow : Json}

-- What a projection has made is projected once more without any repair, for whichever
-- table: it keeps its query, and only fields may change their order. The keys of the
-- registry need not be of its name space, nor its tables have a specification.
theorem repeats_of_projection {projector : Projector} {projected : Projected} (distinct : (registry.map Prod.fst).Nodup)
    (names : flow.Distinct) (made : Projector.make registry specs first = some projector)
    (run : (projector.run flow).1 = .ok projected) (second : Option Text) :
    ∃ other again, Projector.make registry specs second = some other ∧ (other.run projected.flow).1 = .ok again ∧
      (other.run projected.flow).2.repairs = [] ∧ again.sqlId = projected.sqlId ∧
      again.flow.canonical = projected.flow.canonical := by
  obtain ⟨present, rfl⟩ := Projector.make_eq_some_iff.mp made
  obtain ⟨contents, given, steady⟩ := steady_of_project present distinct run
  -- Only where the names of an object are distinct does their order make no difference.
  have whole := kept_of_project Json.inherited_distinct present names run
  obtain ⟨fields, same, there⟩ := Json.field?_eq_some_iff.mp given
  rw [same] at whole
  let target := (second.filter fun name => !name.isEmpty).map Text.upper
  obtain ⟨again, projects, form⟩ :=
    project_of_steady distinct target there steady (Json.inherited_distinct.lookup whole there)
  have remade : Projector.make registry specs second = some ⟨registry, specs, target, []⟩ :=
    Projector.make_eq_some_iff.mpr ⟨present, rfl⟩
  refine ⟨⟨registry, specs, target, []⟩, ⟨again, projected.sqlId⟩, remade, ?_, ?_, rfl, ?_⟩
  · simp only [Projector.run, same, projects, Repaired.outcome_done]
  · simp only [Projector.run, same, projects]
    rfl
  · rw [form, same]

def plainRegistry : Registry := [("plain", ⟨"select 1", "X", "5m", "C"⟩), ("oracle.cdc.y.5m", ⟨"select 2", "Y", "5m", "D"⟩)]

theorem repeats_of_sample : ∃ one other projected again, Projector.make plainRegistry [] none = some one ∧
    (one.run .null).1 = .ok projected ∧ Projector.make plainRegistry [] (some "y") = some other ∧
      (other.run projected.flow).1 = .ok again ∧ (other.run projected.flow).2.repairs = [] ∧
      again.sqlId = ("plain" : Text) ∧ again.flow.canonical = projected.flow.canonical := by
  have returns : (Projector.run ⟨plainRegistry, [], none, []⟩ .null).1.toOption.any fun projected =>
      projected.sqlId = ("plain" : Text) := by decide +kernel
  obtain ⟨projected, run, key⟩ := eq_ok_of_any returns
  have made : Projector.make plainRegistry [] none = some ⟨plainRegistry, [], none, []⟩ := rfl
  obtain ⟨other, again, remade, runs, repairs, same, form⟩ :=
    repeats_of_projection (by decide) (by decide) made run (some "y")
  rw [of_decide_eq_true key] at same
  exact ⟨_, other, projected, again, made, run, remade, runs, repairs, same, form⟩

end ChangeCapture.Projection
