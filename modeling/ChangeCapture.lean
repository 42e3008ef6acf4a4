import ChangeCapture.Main
import ChangeCapture.Proofs.Artifact.Faults
import ChangeCapture.Proofs.Contract.Coverage
import ChangeCapture.Proofs.Contract.Failures
import ChangeCapture.Proofs.Contract.Origin
import ChangeCapture.Proofs.Contract.Policy
import ChangeCapture.Proofs.Contract.Reuse
import ChangeCapture.Proofs.Contract.Stability
import ChangeCapture.Proofs.Flow.Acceptance
import ChangeCapture.Proofs.Flow.RepairLog
import ChangeCapture.Proofs.Flow.Repetition
import ChangeCapture.Proofs.Flow.Residue
import ChangeCapture.Proofs.Json.Reordering
import ChangeCapture.Proofs.Project.Loading
import ChangeCapture.Proofs.Project.Progress
import ChangeCapture.Proofs.Query.Linting
import ChangeCapture.Proofs.Query.Sameness
import ChangeCapture.Proofs.Query.Watermark
import ChangeCapture.Proofs.Registry.Decoding
import ChangeCapture.Proofs.Registry.Union
import ChangeCapture.Proofs.Spec.Format
import ChangeCapture.Proofs.Spec.Template
