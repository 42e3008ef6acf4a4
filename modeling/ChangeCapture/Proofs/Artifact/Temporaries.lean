import ChangeCapture.Proofs.Artifact.Writing

namespace ChangeCapture

namespace Disk

variable {before after : Disk} {left : List Location} {location : Location}

-- A disk as work finds it: nothing stands where a temporary file is yet to be made, and
-- the system takes the path of the working directory.
structure Sound (disk : Disk) : Prop where
  new : ∀ location, disk.IsNew location → disk.tree.item? location = none
  home : Path.checkText disk.site.home = .ok ()

theorem sound_of_given {disk : Disk} (given : ∀ entry ∈ disk.tree.entries, entry.1.isGiven)
    (home : Path.checkText disk.site.home = .ok ()) : disk.Sound where
  new location new := by
    rw [Tree.item?_of_not_fixed new.not_isFixed, List.lookup_eq_none_iff]
    intro entry member
    simpa using fun same : location = entry.1 => new.not_isGiven (same ▸ given entry member)
  home := home

theorem Leaves.sound (leaves : Leaves left before after) (sound : before.Sound) : after.Sound where
  new location new := by
    have earlier := new.mono leaves.serial
    have apart : location ∉ left := fun member => (leaves.used location member).2 new
    rcases leaves.temporaries location new.not_isGiven apart with same | ⟨-, none⟩
    · exact same.trans (sound.new location earlier)
    · exact none
  home := leaves.site.symm ▸ sound.home

def KeepsTemporaries (left : List Location) (before after : Disk) : Prop :=
  ∀ location, ¬location.isGiven → location ∉ left → after.tree.item? location = before.tree.item? location

theorem Leaves.keepsTemporaries (leaves : Leaves left before after) (sound : before.Sound) : KeepsTemporaries left before after := by
  intro location notGiven apart
  rcases leaves.temporaries location notGiven apart with same | ⟨new, none⟩
  · exact same
  · exact none.trans (sound.new location new).symm

end Disk

namespace Artifacts

open Disk (KeepsTemporaries Leaves Stages)

variable {before after : Desk} {artifacts : Artifacts} {outcome : Except Stopped (List Path)}

def IsFailedWrite (path : Path) (reason : Stopped) : Prop :=
  ∃ failure, reason = .failure failure ∧ failure.kind = .writeFailed ∧ failure.details = [(Text.ofString "path", .text path.toText)]

theorem isFailedWrite_stopAt (verb : Text) (path : Path) (fault : DiskFault) :
    IsFailedWrite path (stopAt verb path (.disk fault)) := ⟨_, rfl, rfl, rfl⟩

-- How writing ends, and what is then left of the temporary files. Only a text that cannot
-- be encoded leaves one behind: the staging of it is cut short with its file empty, and
-- what clears the staged files does not know of that one.
inductive Aftermath (artifacts : Artifacts) (before after : Disk) : Except Stopped (List Path) → Prop
  | returned {written : List Path} (clean : KeepsTemporaries [] before after) : Aftermath artifacts before after (.ok written)
  | failed {artifact : Path × Text} {reason : Stopped} (listed : artifact ∈ artifacts) (failed : IsFailedWrite artifact.1 reason)
      (clean : KeepsTemporaries [] before after) : Aftermath artifacts before after (.error reason)
  | obstructed {artifact : Path × Text} {mishap : Mishap} (listed : artifact ∈ artifacts)
      (obstructs : Obstructs before artifact.1 mishap) (clean : KeepsTemporaries [] before after) :
    Aftermath artifacts before after (.error (.mishap mishap))
  | spilled {artifact : Path × Text} {error : Utf8EncodeError} {location : Location} {serial : Nat} (listed : artifact ∈ artifacts)
      (unencodable : Utf8.encode artifact.2 = .error error) (beside : location.IsBeside artifact.1 serial)
      (absent : before.tree.item? location = none) (left : after.tree.item? location = some (.file []))
      (others : KeepsTemporaries [location] before after) : Aftermath artifacts before after (.error (.mishap (.encoding error)))

theorem Course.refused {done : List (Staged × Unit)} {left : List Staged} {reason : Option Mishap} {before after : Disk}
    (course : Course replaceOnce done left reason before after) {mishap : Mishap} (stopped : reason = some mishap) :
    ∃ fault, mishap = .disk fault := by
  induction course with
  | through => cases stopped
  | stopped tried =>
    cases stopped
    cases replacement_of_tried tried with
    | refused alike => exact ⟨_, rfl⟩
  | step _ _ ih => exact ih stopped

theorem Writes.aftermath (writes : Writes artifacts before after outcome) (sound : before.disk.Sound) :
    after.disk.Sound ∧ Aftermath artifacts before.disk after.disk outcome := by
  cases writes with
  | halted ran halts leaves within =>
    have kept := leaves.keepsTemporaries sound
    refine ⟨leaves.sound sound, ?_⟩
    cases halts with
    | refused listed => exact .failed listed (isFailedWrite_stopAt _ _ _) kept
    | obstructed listed obstructs => exact .obstructed listed obstructs kept
    | spilled listed unencodable beside held =>
      have new := (leaves.used _ (List.mem_singleton_self _)).1
      exact .spilled listed unencodable beside (sound.new _ new) held kept
  | replaced ran stages prepared course closes leaves within =>
    have kept := leaves.keepsTemporaries sound
    refine ⟨leaves.sound sound, ?_⟩
    cases closes with
    | through => exact .returned kept
    | @stopped one rest mishap =>
      obtain ⟨fault, rfl⟩ := course.refused rfl
      obtain ⟨text, listed, -⟩ := prepared.waiting one (List.mem_append_right _ (List.mem_cons_self ..))
      exact .failed listed (isFailedWrite_stopAt _ _ _) kept

structure Fits (tree : Tree) (path : Path) (text : Text) : Prop where
  checked : path.check = .ok ()
  short : ¬path.Overlong
  encodable : ¬text.any Utf8.isHalf
  decodable : ∀ bytes, tree.held? path = some bytes → ∃ found, Content.text bytes = .ok found

instance (tree : Tree) (path : Path) (text : Text) : Decidable (Fits tree path text) := by
  refine decidable_of_iff (path.check = .ok () ∧ ¬path.Overlong ∧ ¬text.any Utf8.isHalf ∧
    ∀ bytes ∈ tree.held? path, (Content.text bytes).toOption.isSome) ⟨fun all => ?_, fun fits => ?_⟩
  · exact ⟨all.1, all.2.1, all.2.2.1, fun bytes held => eq_ok_of_isSome (all.2.2.2 bytes held)⟩
  · refine ⟨fits.checked, fits.short, fits.encodable, fun bytes held => ?_⟩
    obtain ⟨found, decoded⟩ := fits.decodable bytes held
    rw [decoded]
    rfl

theorem Fits.not_obstructs {disk : Disk} {path : Path} {text : Text} {mishap : Mishap} (fits : Fits disk.tree path text)
    (sound : disk.Sound) : ¬Obstructs disk path mishap := by
  intro obstructs
  cases obstructs with
  | overlong long => exact fits.short long
  | undecodable held undecodable =>
    obtain ⟨_, decoded⟩ := fits.decodable _ held
    cases undecodable.symm.trans decoded
  | untaken cause unchecked => exact unchecked sound.home fits.checked

theorem Fits.encode {tree : Tree} {path : Path} {text : Text} (fits : Fits tree path text) : ∃ bytes, Utf8.encode text = .ok bytes :=
  Utf8.exists_encode_iff.mpr fits.encodable

theorem Aftermath.clean {before after : Disk} (aftermath : Aftermath artifacts before after outcome) (sound : before.Sound)
    (fits : ∀ artifact ∈ artifacts, Fits before.tree artifact.1 artifact.2) : KeepsTemporaries [] before after ∧
      ∀ reason, outcome = .error reason → ∃ artifact ∈ artifacts, IsFailedWrite artifact.1 reason := by
  cases aftermath with
  | returned clean => exact ⟨clean, fun _ same => by cases same⟩
  | failed listed failed clean =>
    refine ⟨clean, fun _ same => ?_⟩
    cases same
    exact ⟨_, listed, failed⟩
  | obstructed listed obstructs clean => exact absurd obstructs ((fits _ listed).not_obstructs sound)
  | spilled listed unencodable =>
    obtain ⟨_, encoded⟩ := (fits _ listed).encode
    cases unencodable.symm.trans encoded

-- However writing ends, it is told what is left of the temporary files. Of artifacts that
-- fit nothing is left, and only failed writes stop them.
theorem temporaries_of_write (sound : before.disk.Sound) (plain : ∀ artifact ∈ artifacts, artifact.1.IsPlain)
    (ended : Work.Ends (write artifacts) before outcome after) :
    after.disk.Sound ∧ Aftermath artifacts before.disk after.disk outcome ∧
      ((∀ artifact ∈ artifacts, Fits before.disk.tree artifact.1 artifact.2) → KeepsTemporaries [] before.disk after.disk ∧
        ∀ reason, outcome = .error reason → ∃ artifact ∈ artifacts, IsFailedWrite artifact.1 reason) := by
  obtain ⟨later, aftermath⟩ := (ends_write_cases plain ended).aftermath sound
  exact ⟨later, aftermath, aftermath.clean sound⟩

section Sample

def samplePath : Path := .ofText "a.json"

-- A directory whose only file is to be replaced. Its system refuses the first temporary
-- file and both renames.
def refusingDesk : Desk where
  disk.tree.entries := [([.given "a.json"], .file [123, 125])]
  disk.site := ⟨"/", []⟩
  disk.serial := 0
  disk.faults := ⟨[true], [], [true, true]⟩
  log := []

theorem temporaries_of_refusing : ∃ (reason : Stopped) (after : Desk), refusingDesk.disk.Sound ∧ samplePath.IsPlain ∧
    Fits refusingDesk.disk.tree samplePath "{}\n" ∧
    Work.Ends (write [(samplePath, "{}\n")]) refusingDesk (.error reason) after ∧ after.disk.serial = 1 ∧
      KeepsTemporaries [] refusingDesk.disk after.disk ∧ IsFailedWrite samplePath reason := by
  have sound : refusingDesk.disk.Sound := Disk.sound_of_given (by decide) (by decide +kernel)
  have plain : samplePath.IsPlain := Path.isPlain_ofText "a.json"
  have fits : Fits refusingDesk.disk.tree samplePath "{}\n" := by decide +kernel
  have stopped : (StateT.run (write [(samplePath, "{}\n")]) refusingDesk).1 =
      .error (stopAt "replace" samplePath (.disk ⟨.injected "replace", [], none⟩)) := by rfl
  have ended := Work.ends_of_fst stopped
  obtain ⟨-, -, clean⟩ := temporaries_of_write sound (List.forall_mem_singleton.mpr plain) ended
  obtain ⟨kept, failed⟩ := clean (List.forall_mem_singleton.mpr fits)
  obtain ⟨artifact, listed, named⟩ := failed _ rfl
  rw [List.mem_singleton.mp listed] at named
  exact ⟨_, _, sound, plain, fits, ended, by decide +kernel, kept, named⟩

def halfFlow : Json := .object [("comments", .text [.surrogate ⟨0, by decide⟩])]

def emptyDesk : Desk where
  disk.tree.entries := []
  disk.site := ⟨"/", []⟩
  disk.serial := 0
  disk.faults := .none
  log := []

theorem temporary_left_of_half : emptyDesk.disk.Sound ∧ samplePath.IsPlain ∧ ∃ (error : Utf8EncodeError) (after : Desk),
    Work.Ends (write [(samplePath, halfFlow.write)]) emptyDesk (.error (.mishap (.encoding error))) after ∧
      emptyDesk.disk.tree.item? [.temporary "a.json" 0] = none ∧
      after.disk.tree.item? [.temporary "a.json" 0] = some (.file []) := by
  have sound : emptyDesk.disk.Sound := Disk.sound_of_given (by decide) (by decide +kernel)
  refine ⟨sound, Path.isPlain_ofText _, ⟨.surrogate ⟨0, by decide⟩, 17, 1⟩, _, Work.ends_of_fst ?_, rfl, ?_⟩
  · rfl
  · decide +kernel

end Sample

end Artifacts

end ChangeCapture
