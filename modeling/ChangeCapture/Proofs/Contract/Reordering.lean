import ChangeCapture.Proofs.Contract.Projection
import ChangeCapture.Proofs.Json.Canonical

namespace ChangeCapture.Contract

open Projection (byTable)

variable {specs other : List Spec} {registry contents : Fields} {built : Registry}

-- The verifier reads the specifications through their index, so their order is lost on it.
theorem Agreement.of_lookup (agreement : Agreement (byTable specs) registry contents)
    (same : ∀ name, (byTable specs).lookup name = (byTable other).lookup name) : Agreement (byTable other) registry contents where
  covered item member window option := by
    refine agreement.covered item ?_ window option
    rw [Projection.mem_byTable, same]
    exact Projection.mem_byTable.mp member
  entries field member := by
    obtain ⟨entry, spec, read, found, agrees⟩ := agreement.entries field member
    exact ⟨entry, spec, read, (same _).symm.trans found, agrees⟩
  lookup := agreement.lookup
  processors := agreement.processors
  connections := agreement.connections
  services := agreement.services
  binding := by
    obtain ⟨key, data, entry, spec, bound, there, read, found, rest⟩ := agreement.binding
    exact ⟨key, data, entry, spec, bound, there, read, (same _).symm.trans found, rest⟩

theorem violations_of_perm (distinct : (specs.map Spec.tableName).Nodup) (perm : specs.Perm other) {document flow : Json}
    (clean : violations specs document flow = .ok []) : violations other document flow = .ok [] := by
  obtain ⟨registry, contents, same, given, agreement⟩ := violations_eq_nil_iff.mp clean
  exact violations_eq_nil_iff.mpr ⟨registry, contents, same, given,
    agreement.of_lookup (Projection.lookup_byTable_of_perm distinct perm)⟩

end ChangeCapture.Contract
