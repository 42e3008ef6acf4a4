import ChangeCapture.Proofs.Artifact.Attempts
import ChangeCapture.Proofs.Artifact.Staging

namespace ChangeCapture.Artifacts

open Disk (Stages)

variable {path : Path} {text : Text} {before middle after : Desk} {tree : Tree} {artifacts : Artifacts} {staged : List Staged}
  {mishap : Mishap}

theorem isCurrent_eq_ok_iff : isCurrent tree path text = .ok true ↔
    tree.isFile path = .ok true ∧ ∃ bytes, tree.read path = .ok bytes ∧ Content.text bytes = .ok text := by
  simp only [isCurrent, bind_eq_ok_iff, mapError_eq_ok_iff]
  constructor
  · intro held
    obtain ⟨isFile, found, same⟩ := held
    split at same
    · rename_i there
      subst there
      obtain ⟨bytes, read, same⟩ := bind_eq_ok_iff.mp same
      obtain ⟨text', decoded, equal⟩ := map_eq_ok_iff.mp same
      rw [decide_eq_true_eq] at equal
      exact ⟨found, bytes, mapError_eq_ok_iff.mp read, equal ▸ decoded⟩
    · cases same
  · intro held
    obtain ⟨found, bytes, read, decoded⟩ := held
    refine ⟨true, found, ?_⟩
    rw [if_pos rfl]
    refine bind_eq_ok_iff.mpr ⟨bytes, mapError_eq_ok_iff.mpr read, map_eq_ok_iff.mpr ⟨text, decoded, ?_⟩⟩
    exact decide_eq_true rfl

theorem isCurrent_of_find {location : Location} {bytes : Bytes} (checked : path.check = .ok ())
    (found : tree.find path = .ok (location, .file bytes)) (decoded : Content.text bytes = .ok text) :
    isCurrent tree path text = .ok true :=
  isCurrent_eq_ok_iff.mpr ⟨Tree.isFile_eq_ok_iff.mpr ⟨checked, location, bytes, found⟩, bytes,
    Tree.read_eq_ok_iff.mpr ⟨location, found⟩, decoded⟩

theorem isCurrent_of_within {touched : List Location} {later : Tree} (current : isCurrent tree path text = .ok true)
    (within : Tree.Within touched tree later) (apart : path.place ∉ touched) : isCurrent later path text = .ok true := by
  obtain ⟨isFile, bytes, read, decoded⟩ := isCurrent_eq_ok_iff.mp current
  exact isCurrent_eq_ok_iff.mpr ⟨within.isFile apart isFile, bytes, within.read apart read, decoded⟩

def Carries (tree : Tree) (path : Path) (text : Text) : Prop :=
  ∃ bytes, Utf8.encode text = .ok bytes ∧ tree.held? path = some bytes

theorem carries_of_isCurrent (current : isCurrent tree path text = .ok true) : Carries tree path text := by
  obtain ⟨-, bytes, read, decoded⟩ := isCurrent_eq_ok_iff.mp current
  exact ⟨bytes, Utf8.encode_of_decode (mapError_eq_ok_iff.mp decoded), Tree.held?_of_read read⟩

-- Only a name that is too long, or a file that is no text, keeps an artifact from being compared.
theorem cause_of_isCurrent (refused : isCurrent tree path text = .error mishap) :
    (path.Overlong ∧ mishap = .disk (Tree.faultAt path .longName)) ∨
      ∃ bytes, tree.held? path = some bytes ∧ Content.text bytes = .error mishap := by
  unfold isCurrent at refused
  cases looked : tree.isFile path with
  | error fault =>
    rw [looked] at refused
    obtain ⟨-, long, rfl⟩ := Tree.isFile_eq_error_iff.mp looked
    cases refused
    exact .inl ⟨Tree.overlong_of_find long, rfl⟩
  | ok isFile =>
    cases isFile with
    | false =>
      rw [looked] at refused
      cases refused
    | true =>
      obtain ⟨-, location, bytes, found⟩ := Tree.isFile_eq_ok_iff.mp looked
      have read := Tree.read_eq_ok_iff.mpr ⟨location, found⟩
      rw [looked, read] at refused
      exact .inr ⟨bytes, Tree.held?_of_read read, map_eq_error_iff.mp refused⟩

-- What keeps an artifact from being compared or staged, and is no refusal of the disk.
inductive Obstructs (disk : Disk) (path : Path) : Mishap → Prop
  | overlong (long : path.Overlong) : Obstructs disk path (.disk (Tree.faultAt path .longName))
  | undecodable {bytes : Bytes} {mishap : Mishap} (held : disk.tree.held? path = some bytes)
      (undecodable : Content.text bytes = .error mishap) : Obstructs disk path mishap
  | untaken {mishap : Mishap} (cause : (∃ error, mishap = .encoding error) ∨ mishap = .nullByte)
      (unchecked : Path.checkText disk.site.home = .ok () → path.check ≠ .ok ()) : Obstructs disk path mishap

theorem Obstructs.of_stages {left : List Location} {before after : Disk} (obstructs : Obstructs after path mishap)
    (stages : Stages left before after) : Obstructs before path mishap := by
  cases obstructs with
  | overlong long => exact .overlong long
  | undecodable held undecodable => exact .undecodable (stages.within.held? List.not_mem_nil ▸ held) undecodable
  | untaken cause unchecked => exact .untaken cause (stages.site ▸ unchecked)

theorem obstructs_of_isCurrent {disk : Disk} (refused : isCurrent disk.tree path text = .error mishap) :
    Obstructs disk path mishap := by
  rcases cause_of_isCurrent refused with ⟨long, rfl⟩ | ⟨bytes, held, undecodable⟩
  · exact .overlong long
  · exact .undecodable held undecodable

theorem attempted_stage (plain : path.IsPlain) {result : Except Mishap Temporary}
    (ended : Work.Ends (stage path text) before result after) : Attempted path text before.disk after.disk result := by
  cases ends_tried ended with
  | once ran final => exact attempted_stageOnce plain ran
  | again refused ran => exact (attempted_stageOnce plain ran).following (attempted_stageOnce plain refused).stages_of_refused

-- Why the staging stops, and which temporary file it leaves that is not told.
inductive Halts (artifacts : Artifacts) (before after : Disk) : List Location → Stopped → Prop
  | refused {artifact : Path × Text} {fault : DiskFault} (listed : artifact ∈ artifacts) :
    Halts artifacts before after [] (stopAt "stage" artifact.1 (.disk fault))
  | obstructed {artifact : Path × Text} {mishap : Mishap} (listed : artifact ∈ artifacts)
      (obstructs : Obstructs before artifact.1 mishap) : Halts artifacts before after [] (.mishap mishap)
  | spilled {artifact : Path × Text} {error : Utf8EncodeError} {location : Location} {serial : Nat} (listed : artifact ∈ artifacts)
      (unencodable : Utf8.encode artifact.2 = .error error) (beside : location.IsBeside artifact.1 serial)
      (held : after.tree.item? location = some (.file [])) : Halts artifacts before after [location] (.mishap (.encoding error))

theorem Halts.cons {artifact : Path × Text} {left spilled : List Location} {before middle after : Disk} {reason : Stopped}
    (halts : Halts artifacts middle after spilled reason) (stages : Stages left before middle) :
    Halts (artifact :: artifacts) before after spilled reason := by
  cases halts with
  | refused listed => exact .refused (List.mem_cons_of_mem _ listed)
  | obstructed listed obstructs => exact .obstructed (List.mem_cons_of_mem _ listed) (obstructs.of_stages stages)
  | spilled listed unencodable beside held => exact .spilled (List.mem_cons_of_mem _ listed) unencodable beside held

theorem Halts.later {spilled : List Location} {before middle after : Disk} {reason : Stopped}
    (halts : Halts artifacts before middle spilled reason)
    (kept : ∀ location ∈ spilled, after.tree.item? location = middle.tree.item? location) :
    Halts artifacts before after spilled reason := by
  cases halts with
  | refused listed => exact .refused listed
  | obstructed listed obstructs => exact .obstructed listed obstructs
  | spilled listed unencodable beside held =>
    exact .spilled listed unencodable beside ((kept _ (List.mem_singleton_self _)).trans held)

def temporaries (staged : List Staged) : List Location := staged.map fun one => one.temporary.location

structure Prepared (artifacts : Artifacts) (staged : List Staged) (tree : Tree) : Prop where
  each : ∀ artifact ∈ artifacts, isCurrent tree artifact.1 artifact.2 = .ok true ∨
    ∃ one ∈ staged, one.path = artifact.1 ∧ Holds tree one.temporary artifact.2
  paths : (staged.map Staged.path).Sublist (artifacts.map Prod.fst)
  waiting : ∀ one ∈ staged, ∃ text, (one.path, text) ∈ artifacts ∧ Holds tree one.temporary text
  checked : ∀ one ∈ staged, one.path.check = .ok ()

namespace Prepared

theorem nil (tree : Tree) : Prepared [] [] tree := ⟨by simp, .refl _, by simp, by simp⟩

theorem places (prepared : Prepared artifacts staged tree) :
    (staged.map fun one => one.path.place).Sublist (artifacts.map fun artifact => artifact.1.place) := by
  have mapped := prepared.paths.map Path.place
  rwa [List.map_map, List.map_map] at mapped

theorem current (prepared : Prepared artifacts staged tree) (here : isCurrent tree path text = .ok true) :
    Prepared ((path, text) :: artifacts) staged tree where
  each artifact member := by
    cases member with
    | head => exact .inl here
    | tail _ member => exact prepared.each artifact member
  paths := prepared.paths.cons _
  waiting one member := by
    obtain ⟨text, listed, held⟩ := prepared.waiting one member
    exact ⟨text, List.mem_cons_of_mem _ listed, held⟩
  checked := prepared.checked

theorem stage {temporary : Temporary} (prepared : Prepared artifacts staged tree) (checked : path.check = .ok ())
    (held : Holds tree temporary text) : Prepared ((path, text) :: artifacts) (⟨temporary, path⟩ :: staged) tree where
  each artifact member := by
    cases member with
    | head => exact .inr ⟨⟨temporary, path⟩, List.mem_cons_self .., rfl, held⟩
    | tail _ member =>
      rcases prepared.each artifact member with here | ⟨one, listed, rest⟩
      · exact .inl here
      · exact .inr ⟨one, List.mem_cons_of_mem _ listed, rest⟩
  paths := prepared.paths.cons_cons _
  waiting one member := by
    cases member with
    | head => exact ⟨text, List.mem_cons_self .., held⟩
    | tail _ member =>
      obtain ⟨text, listed, held⟩ := prepared.waiting one member
      exact ⟨text, List.mem_cons_of_mem _ listed, held⟩
  checked one member := by
    cases member with
    | head => exact checked
    | tail _ member => exact prepared.checked one member

end Prepared

inductive Staging (artifacts : Artifacts) (staged : List Staged) (before after : Disk) : Option Stopped → Prop
  | prepared (stages : Stages (temporaries staged) before after) (prepared : Prepared artifacts staged after.tree) :
    Staging artifacts staged before after none
  | halted {reason : Stopped} {spilled : List Location} (stages : Stages (temporaries staged ++ spilled) before after)
      (halts : Halts artifacts before after spilled reason) : Staging artifacts staged before after (some reason)

namespace Staging

variable {before middle after : Disk} {stopped : Option Stopped}

theorem current (staging : Staging artifacts staged before after stopped) (here : isCurrent before.tree path text = .ok true) :
    Staging ((path, text) :: artifacts) staged before after stopped := by
  cases staging with
  | prepared stages prepared =>
    exact .prepared stages (prepared.current (isCurrent_of_within here stages.within List.not_mem_nil))
  | halted stages halts => exact .halted stages (halts.cons (.refl _))

theorem stage {temporary : Temporary} (staging : Staging artifacts staged middle after stopped) (checked : path.check = .ok ())
    (held : Holds middle.tree temporary text) (first : Stages [temporary.location] before middle) :
    Staging ((path, text) :: artifacts) (⟨temporary, path⟩ :: staged) before after stopped := by
  cases staging with
  | prepared stages prepared =>
    obtain ⟨bytes, encoded, there⟩ := held
    obtain ⟨new, old⟩ := first.used _ (List.mem_singleton_self _)
    have still : Holds after.tree temporary text := ⟨bytes, encoded, (stages.keeps old new.not_isGiven).trans there⟩
    exact .prepared (first.trans stages) (prepared.stage checked still)
  | halted stages halts => exact .halted (first.trans stages) (halts.cons first)

theorem refused {result : Except Mishap Temporary} (attempted : Attempted path text before after result) (failed : result = .error mishap) :
    Staging ((path, text) :: artifacts) [] before after (some (stopAt "stage" path mishap)) := by
  have listed : (path, text) ∈ (path, text) :: artifacts := List.mem_cons_self ..
  cases attempted with
  | waiting => cases failed
  | refused fault stages =>
    cases failed
    exact .halted stages (.refused listed)
  | untaken cause unchecked stages =>
    cases failed
    have passed : stopAt "stage" path mishap = .mishap mishap := by rcases cause with ⟨_, rfl⟩ | rfl <;> rfl
    rw [passed]
    exact .halted stages (.obstructed listed (.untaken cause unchecked))
  | spilled unencodable beside held stages =>
    cases failed
    exact .halted stages (.spilled listed unencodable beside held)

end Staging

theorem ends_stageChanged (plain : ∀ artifact ∈ artifacts, artifact.1.IsPlain) {stopped : Option Stopped}
    (ended : Work.Ends (stageChanged artifacts) before (staged, stopped) after) :
    Staging artifacts staged before.disk after.disk stopped := by
  induction artifacts generalizing before staged stopped with
  | nil =>
    cases ended
    exact .prepared (.refl _) (.nil _)
  | cons artifact rest ih =>
    rcases artifact with ⟨path, text⟩
    have plainPath := plain _ (List.mem_cons_self ..)
    have plainRest : ∀ artifact ∈ rest, artifact.1.IsPlain := fun artifact member => plain artifact (List.mem_cons_of_mem _ member)
    simp only [stageChanged, Work.ends_bind_iff, Work.ends_tree_iff] at ended
    obtain ⟨tree, _, ⟨rfl, rfl⟩, ended⟩ := ended
    split at ended
    · rename_i refused
      cases ended
      exact .halted (.refl _) (.obstructed (List.mem_cons_self ..) (obstructs_of_isCurrent refused))
    · rename_i current
      obtain ⟨_, middle, told, ended⟩ := Work.ends_bind_iff.mp ended
      have same : middle.disk = before.disk := by rw [← Work.ends_tell_iff.mp told]
      have staging := ih plainRest ended
      rw [same] at staging
      exact staging.current current
    · obtain ⟨outcome, middle, first, ended⟩ := Work.ends_bind_iff.mp ended
      have attempted := attempted_stage plainPath first
      split at ended
      · cases ended
        exact .refused attempted rfl
      · obtain ⟨⟨later, stopped'⟩, last, second, same⟩ := Work.ends_bind_iff.mp ended
        cases same
        cases attempted with
        | waiting checked _ held stages => exact (ih plainRest second).stage checked held stages

end ChangeCapture.Artifacts
