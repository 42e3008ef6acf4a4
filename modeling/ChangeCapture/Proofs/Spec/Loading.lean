import ChangeCapture.Proofs.Project.Steps
import ChangeCapture.Proofs.Spec.Quoting
import ChangeCapture.Proofs.Yaml.Valuing

namespace ChangeCapture

variable {tree : Tree} {path : Path}

namespace Spec

def HoldsText (tree : Tree) (path : Path) (text : Text) : Prop :=
  tree.isFile path = .ok true ∧ ∃ bytes decoded, tree.read path = .ok bytes ∧ Content.textInBlocks bytes = .ok decoded ∧
    text = decoded.withLineFeeds

-- What stops the reading of a specification without being told as a failure of it.
inductive Escapes (tree : Tree) (path : Path) : Mishap → Prop
  | name : path.check = .ok () → tree.find path = .error .longName → Escapes tree path (.disk (Tree.faultAt path .longName))
  | scalar {text : Text} {mishap : Mishap} : HoldsText tree path text → Yaml.read text = .error (.refused mishap) →
    Escapes tree path mishap
  | quote {text : Text} {document : Document} {error : Utf8EncodeError} : HoldsText tree path text →
    Yaml.read text = .ok document → ofDocument document = .error (.unwritable error) → Escapes tree path (.encoding error)

theorem judged_eq_mishap_iff {given : Option Text} {document : Document} {mishap : Mishap} :
    (ofDocument document >>= checkName path).mapError (SpecFault.stopped given) = .error (.mishap mishap) ↔
      ∃ error, ofDocument document = .error (.unwritable error) ∧ mishap = .encoding error := by
  cases read : ofDocument document with
  | ok spec =>
    change (checkName path spec).mapError (SpecFault.stopped given) = .error (.mishap mishap) ↔ _
    unfold checkName
    split <;> simp [Except.mapError, SpecFault.stopped]
  | error fault =>
    change Except.error (fault.stopped given) = Except.error (Stopped.mishap mishap) ↔ _
    cases fault <;> simp [SpecFault.stopped, eq_comm]

theorem ofBytes_eq_mishap_iff {bytes : Bytes} {mishap : Mishap} : ofBytes path bytes = .error (.mishap mishap) ↔
    ∃ decoded, Content.textInBlocks bytes = .ok decoded ∧ (Yaml.read decoded.withLineFeeds = .error (.refused mishap) ∨
      ∃ document error, Yaml.read decoded.withLineFeeds = .ok document ∧ ofDocument document = .error (.unwritable error) ∧
        mishap = .encoding error) := by
  unfold ofBytes
  constructor
  · intro refused
    split at refused
    · cases refused
    · rename_i decoded content
      refine ⟨decoded, content, ?_⟩
      split at refused
      · cases refused
      · rename_i parsed
        cases refused
        exact .inl parsed
      · rename_i document parsed
        obtain ⟨error, unwritable, same⟩ := judged_eq_mishap_iff.mp refused
        exact .inr ⟨document, error, parsed, unwritable, same⟩
  · intro held
    obtain ⟨decoded, content, parsed | ⟨document, error, parsed, unwritable, same⟩⟩ := held
    · simp only [content, parsed]
    · simp only [content, parsed]
      exact judged_eq_mishap_iff.mpr ⟨error, unwritable, same⟩

theorem read_eq_mishap_iff {mishap : Mishap} : read tree path = .error (.mishap mishap) ↔ Escapes tree path mishap := by
  constructor
  · intro refused
    unfold read at refused
    cases looked : tree.isFile path with
    | error fault =>
      rw [looked] at refused
      cases refused
      obtain ⟨checked, long, rfl⟩ := Tree.isFile_eq_error_iff.mp looked
      exact .name checked long
    | ok isFile =>
      rw [looked] at refused
      cases isFile with
      | false => cases refused
      | true =>
        obtain ⟨_, location, bytes, found⟩ := Tree.isFile_eq_ok_iff.mp looked
        have content := Tree.read_eq_ok_iff.mpr ⟨location, found⟩
        rw [content] at refused
        obtain ⟨decoded, decodes, outcome⟩ := ofBytes_eq_mishap_iff.mp refused
        have holds : HoldsText tree path decoded.withLineFeeds := ⟨looked, bytes, decoded, content, decodes, rfl⟩
        rcases outcome with parsed | ⟨document, error, parsed, unwritable, rfl⟩
        · exact .scalar holds parsed
        · exact .quote holds parsed unwritable
  · have ofText : ∀ {text : Text}, HoldsText tree path text → (Yaml.read text = .error (.refused mishap) ∨
        ∃ document error, Yaml.read text = .ok document ∧ ofDocument document = .error (.unwritable error) ∧
          mishap = .encoding error) → read tree path = .error (.mishap mishap) := by
      intro text holds outcome
      obtain ⟨looked, bytes, decoded, content, decodes, rfl⟩ := holds
      unfold read
      rw [looked, content]
      exact ofBytes_eq_mishap_iff.mpr ⟨decoded, decodes, outcome⟩
    intro escapes
    cases escapes with
    | name checked long =>
      unfold read
      rw [Tree.isFile_eq_error_iff.mpr ⟨checked, long, rfl⟩]
      rfl
    | scalar holds parsed => exact ofText holds (.inl parsed)
    | quote holds parsed unwritable => exact ofText holds (.inr ⟨_, _, parsed, unwritable, rfl⟩)

theorem exists_half_of_unwritable {document : Document} {error : Utf8EncodeError}
    (refused : ofDocument document = .error (.unwritable error)) : ∃ part, document.Contains part ∧ part.any Utf8.isHalf := by
  by_contra none
  have whole : document.Whole := fun part within half => none ⟨part, within, half⟩
  cases document with
  | mapping entries =>
    obtain ⟨_, _, same⟩ := invalid_of_whole whole refused
    cases same
  | _ => cases refused

-- What in a file, or in its path, makes it escape.
inductive Cause (tree : Tree) (path : Path) : Mishap → Prop
  | name : tree.find path = .error .longName → Cause tree path (.disk (Tree.faultAt path .longName))
  | scalar {text : Text} {mishap : Mishap} : HoldsText tree path text → Yaml.Refusal text mishap → Cause tree path mishap
  | quote {text part : Text} {document : Document} {error : Utf8EncodeError} : HoldsText tree path text →
    Yaml.read text = .ok document → document.Contains part → part.any Utf8.isHalf → Cause tree path (.encoding error)

theorem Escapes.cause {mishap : Mishap} (escapes : Escapes tree path mishap) : Cause tree path mishap := by
  cases escapes with
  | name _ long => exact .name long
  | scalar holds refused => exact .scalar holds (Yaml.refusal_of_read refused)
  | quote holds parsed unwritable =>
    obtain ⟨part, within, half⟩ := exists_half_of_unwritable unwritable
    exact .quote holds parsed within half

def Foreseen (tree : Tree) (path : Path) : Prop := ∀ mishap, ¬Escapes tree path mishap

def Told (outcome : Except Stopped Spec) : Prop :=
  (∃ spec, outcome = .ok spec) ∨ ∃ failure, outcome = .error (.failure failure) ∧ failure.kind ∈ failureKinds

theorem foreseen_iff : Foreseen tree path ↔ Told (read tree path) := by
  constructor
  · intro foreseen
    cases outcome : read tree path with
    | ok spec => exact .inl ⟨spec, rfl⟩
    | error reason =>
      cases reason with
      | failure failure => exact .inr ⟨failure, rfl, isOf_read outcome⟩
      | mishap mishap => exact absurd (read_eq_mishap_iff.mp outcome) (foreseen mishap)
  · intro told mishap escapes
    have outcome := read_eq_mishap_iff.mpr escapes
    rcases told with ⟨spec, same⟩ | ⟨failure, same, -⟩
    · cases outcome.symm.trans same
    · cases outcome.symm.trans same

theorem keeps_read (disk : Disk) (path : Path) : Work.Keeps (load path).run disk (read disk.tree path) := by
  obtain ⟨outcome, kept⟩ := reads_load path disk
  obtain ⟨_, ended⟩ := kept []
  obtain ⟨same, -⟩ := disk_of_load ended
  rw [← same]
  exact kept

theorem keeps_loadAll_of_refused {disk : Disk} {paths : List Path}
    (refused : ∃ path ∈ paths, ∀ spec, read disk.tree path ≠ .ok spec) :
    ∃ path ∈ paths, ∃ reason, read disk.tree path = .error reason ∧ Work.Keeps (loadAll paths).run disk (.error reason) := by
  induction paths with
  | nil =>
    obtain ⟨_, member, -⟩ := refused
    cases member
  | cons path rest ih =>
    have first := keeps_read disk path
    cases outcome : read disk.tree path with
    | error reason =>
      rw [outcome] at first
      exact ⟨path, List.mem_cons_self .., reason, outcome, Job.keeps_stopped first⟩
    | ok spec =>
      rw [outcome] at first
      obtain ⟨other, member, never⟩ := refused
      have within : other ∈ rest := by
        rcases List.mem_cons.mp member with rfl | within
        · exact absurd outcome (never spec)
        · exact within
      obtain ⟨one, listed, reason, same, stopped⟩ := ih ⟨other, within, never⟩
      exact ⟨one, List.mem_cons_of_mem _ listed, reason, same, Job.keeps_run_bind first (Job.keeps_stopped stopped)⟩

end Spec

end ChangeCapture
