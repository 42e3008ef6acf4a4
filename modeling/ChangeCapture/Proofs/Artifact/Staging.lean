import ChangeCapture.Artifact.Writing
import ChangeCapture.Proofs.Files.Content
import ChangeCapture.Proofs.Files.Frame
import ChangeCapture.Proofs.Work

namespace ChangeCapture

namespace Tree

variable {tree : Tree} {path : Path} {touched : List Location} {location : Location}

theorem within_makeDirectoriesFrom (touched : List Location) (plain : path.IsPlain) (fuel : Nat) (tree : Tree) :
    Within touched tree (makeDirectoriesFrom fuel path tree).2 ∧
      ∀ location, ¬location.isGiven → (makeDirectoriesFrom fuel path tree).2.item? location = tree.item? location := by
  have made : ∀ {path : Path} {tree after : Tree}, path.IsPlain → tree.makeDirectory path = .ok after →
      Within touched tree after ∧ ∀ location, ¬location.isGiven → after.item? location = tree.item? location := by
    intro path tree after plain succeeds
    obtain ⟨absent, rfl⟩ := makeDirectory_eq_ok succeeds
    refine ⟨within_makeDirectory absent ?_, fun location temporary => item?_put_of_ne ?_⟩
    · exact Location.endsWell_of_isReached (Location.isReached_place plain) (not_fixed_of_none absent)
    · intro same
      subst same
      exact temporary path.isGiven_place
  induction fuel generalizing path tree with
  | zero =>
    unfold makeDirectoriesFrom
    split
    · rename_i after succeeds
      exact made plain succeeds
    · exact ⟨.refl _ _, fun _ _ => rfl⟩
    · dsimp only
      split <;> exact ⟨.refl _ _, fun _ _ => rfl⟩
  | succ fuel ih =>
    obtain ⟨within, kept⟩ := ih (Path.isPlain_parent plain) tree
    unfold makeDirectoriesFrom
    split
    · rename_i after succeeds
      exact made plain succeeds
    · dsimp only
      split
      · rename_i fault middle same
        rw [same] at within kept
        exact ⟨within, kept⟩
      · rename_i middle same
        rw [same] at within kept
        split
        · rename_i after succeeds
          obtain ⟨more, again⟩ := made plain succeeds
          exact ⟨within.trans more, fun location temporary => (again location temporary).trans (kept location temporary)⟩
        · exact ⟨within, kept⟩
        · split <;> exact ⟨within, kept⟩
    · dsimp only
      split <;> exact ⟨.refl _ _, fun _ _ => rfl⟩

theorem check_of_makeDirectories {after : Tree} (made : makeDirectories path tree = (.ok (), after)) : path.check = .ok () := by
  unfold makeDirectories at made
  split at made
  · cases made
  · assumption

end Tree

namespace Location

def serial? (location : Location) : Option Nat :=
  match location.getLast? with
  | some (.temporary _ serial) => some serial
  | _ => none

theorem not_isGiven_of_serial? {location : Location} {serial : Nat} (numbered : location.serial? = some serial) :
    ¬location.isGiven := by
  unfold serial? at numbered
  split at numbered
  · rename_i last
    intro given
    have named := List.all_eq_true.mp given _ (List.mem_of_getLast? last)
    cases named
  · cases numbered

def IsBeside (location : Location) (path : Path) (serial : Nat) : Prop :=
  location = path.parent.place ++ [.temporary path.name serial]

theorem IsBeside.serial? {location : Location} {path : Path} {serial : Nat} (beside : location.IsBeside path serial) :
    location.serial? = some serial := by
  rw [IsBeside] at beside
  rw [beside, Location.serial?, List.getLast?_concat]

theorem not_isFixed_of_not_isGiven {location : Location} (temporary : ¬location.isGiven) : ¬location.isFixed := by
  intro fixed
  rw [isFixed, Bool.or_eq_true, decide_eq_true_eq] at fixed
  rcases fixed with above | rfl
  · apply temporary
    rw [isGiven, List.all_eq_true]
    intro name member
    have up : name = Name.up := by simpa using List.all_eq_true.mp above name member
    rw [up]
    rfl
  · exact temporary rfl

end Location

namespace Disk

variable {disk before middle after : Disk} {path : Path} {which : FaultyCall} {location : Location}

-- Two disks that differ in nothing but the failures that are yet to come.
structure Alike (before after : Disk) : Prop where
  tree : after.tree = before.tree
  site : after.site = before.site
  serial : after.serial = before.serial

theorem Alike.trans (first : Alike before middle) (second : Alike middle after) : Alike before after :=
  ⟨second.tree.trans first.tree, second.site.trans first.site, second.serial.trans first.serial⟩

theorem alike_call (which : FaultyCall) (disk : Disk) : Alike disk (disk.call which).2 := by
  unfold call
  split <;> exact ⟨rfl, rfl, rfl⟩

def IsNew (disk : Disk) (location : Location) : Prop := ∃ serial, location.serial? = some serial ∧ disk.serial ≤ serial

theorem IsNew.mono (new : after.IsNew location) (later : before.serial ≤ after.serial) : before.IsNew location := by
  obtain ⟨serial, numbered, above⟩ := new
  exact ⟨serial, numbered, Nat.le_trans later above⟩

theorem IsNew.not_isGiven (new : disk.IsNew location) : ¬location.isGiven := by
  obtain ⟨serial, numbered, -⟩ := new
  exact Location.not_isGiven_of_serial? numbered

theorem IsNew.not_isFixed (new : disk.IsNew location) : ¬location.isFixed := Location.not_isFixed_of_not_isGiven new.not_isGiven

structure Clears (gone : List Location) (before after : Disk) : Prop where
  site : after.site = before.site
  serial : after.serial = before.serial
  empty : ∀ location ∈ gone, ¬location.isGiven ∧ after.tree.item? location = none
  kept : ∀ location, ¬location.isGiven → location ∉ gone → after.tree.item? location = before.tree.item? location

namespace Clears

variable {one two : List Location} {temporary : Temporary}

theorem of_alike (alike : Alike before after) : Clears [] before after :=
  ⟨alike.site, alike.serial, by simp, fun _ _ _ => by rw [alike.tree]⟩

theorem trans (first : Clears one before middle) (second : Clears two middle after) : Clears (one ++ two) before after where
  site := second.site.trans first.site
  serial := second.serial.trans first.serial
  empty location member := by
    by_cases later : location ∈ two
    · exact second.empty location later
    · obtain ⟨notGiven, none⟩ := first.empty location ((List.mem_append.mp member).resolve_right later)
      exact ⟨notGiven, (second.kept location notGiven later).trans none⟩
  kept location notGiven apart := by
    rw [List.mem_append, not_or] at apart
    exact (second.kept location notGiven apart.2).trans (first.kept location notGiven apart.1)

theorem remove (notGiven : ¬temporary.location.isGiven) (disk : Disk) : Clears [temporary.location] disk (disk.remove temporary) where
  site := rfl
  serial := rfl
  empty := List.forall_mem_singleton.mpr ⟨notGiven, Tree.item?_erase (Location.not_isFixed_of_not_isGiven notGiven)⟩
  kept _ _ apart := Tree.item?_erase_of_ne (List.ne_of_not_mem_cons apart)

end Clears

-- The temporary files that work leaves: those that are left have numbers of their own,
-- and of the others none has come and none that was there before has changed.
structure Leaves (left : List Location) (before after : Disk) : Prop where
  site : after.site = before.site
  serial : before.serial ≤ after.serial
  used : ∀ location ∈ left, before.IsNew location ∧ ¬after.IsNew location
  distinct : left.Nodup
  temporaries : ∀ location, ¬location.isGiven → location ∉ left →
    after.tree.item? location = before.tree.item? location ∨ before.IsNew location ∧ after.tree.item? location = none

namespace Leaves

variable {left one two : List Location} {temporary : Temporary}

theorem of_kept (site : after.site = before.site) (serial : after.serial = before.serial)
    (kept : ∀ location, ¬location.isGiven → after.tree.item? location = before.tree.item? location) : Leaves [] before after where
  site := site
  serial := Nat.le_of_eq serial.symm
  used := by simp
  distinct := .nil
  temporaries location temporary _ := .inl (kept location temporary)

theorem trans (first : Leaves one before middle) (second : Leaves two middle after) : Leaves (one ++ two) before after where
  site := second.site.trans first.site
  serial := Nat.le_trans first.serial second.serial
  used location member := by
    rcases List.mem_append.mp member with member | member
    · obtain ⟨new, old⟩ := first.used location member
      exact ⟨new, fun still => old (still.mono second.serial)⟩
    · obtain ⟨new, old⟩ := second.used location member
      exact ⟨new.mono first.serial, old⟩
  distinct := by
    refine List.nodup_append.mpr ⟨first.distinct, second.distinct, fun location ofOne other ofTwo same => ?_⟩
    subst same
    exact (first.used location ofOne).2 (second.used location ofTwo).1
  temporaries location temporary apart := by
    rw [List.mem_append, not_or] at apart
    rcases second.temporaries location temporary apart.2 with same | ⟨new, gone⟩
    · rw [same]
      exact first.temporaries location temporary apart.1
    · exact .inr ⟨new.mono first.serial, gone⟩

theorem notGiven (leaves : Leaves left before after) : ∀ location ∈ left, ¬location.isGiven :=
  fun location member => (leaves.used location member).1.not_isGiven

theorem keeps (leaves : Leaves left before after) (old : ¬before.IsNew location) (temporary : ¬location.isGiven) :
    after.tree.item? location = before.tree.item? location := by
  have apart : location ∉ left := fun member => old (leaves.used location member).1
  exact (leaves.temporaries location temporary apart).resolve_right fun gone => old gone.1

theorem create (numbered : temporary.location.serial? = some before.serial)
    (tree : after.tree = before.tree.put temporary.location (.file [])) (site : after.site = before.site)
    (next : after.serial = before.serial + 1) : Leaves [temporary.location] before after where
  site := site
  serial := by omega
  used := by
    refine List.forall_mem_singleton.mpr ⟨⟨_, numbered, Nat.le_refl _⟩, ?_⟩
    rintro ⟨number, same, above⟩
    rw [numbered, Option.some.injEq] at same
    omega
  distinct := List.nodup_singleton _
  temporaries location _ apart := by
    rw [tree]
    exact .inl (Tree.item?_put_of_ne (List.ne_of_not_mem_cons apart))

theorem fill (leaves : Leaves left before after) (member : temporary.location ∈ left) (bytes : Bytes) :
    Leaves left before (after.fill temporary bytes) where
  site := leaves.site
  serial := leaves.serial
  used := leaves.used
  distinct := leaves.distinct
  temporaries location notGiven apart := by
    have differs : location ≠ temporary.location := fun same => apart (same ▸ member)
    rw [Disk.fill, withTree, Tree.item?_put_of_ne differs]
    exact leaves.temporaries location notGiven apart

theorem clear {gone : List Location} (leaves : Leaves one before middle) (clears : Clears gone middle after)
    (new : ∀ location ∈ gone, before.IsNew location) (rest : two.Sublist one)
    (parts : ∀ location ∈ one, location ∈ gone ∨ location ∈ two) : Leaves two before after where
  site := clears.site.trans leaves.site
  serial := clears.serial ▸ leaves.serial
  used location member := by
    obtain ⟨new, old⟩ := leaves.used location (rest.subset member)
    exact ⟨new, fun still => old (still.mono (Nat.le_of_eq clears.serial.symm))⟩
  distinct := leaves.distinct.sublist rest
  temporaries location notGiven apart := by
    by_cases taken : location ∈ gone
    · exact .inr ⟨new location taken, (clears.empty location taken).2⟩
    · rw [clears.kept location notGiven taken]
      exact leaves.temporaries location notGiven fun member => ((parts location member).elim taken apart)

theorem of_alike (leaves : Leaves left before middle) (alike : Alike middle after) : Leaves left before after :=
  leaves.clear (.of_alike alike) (by simp) (.refl _) fun _ => .inr

theorem clear_head (leaves : Leaves (location :: left) before middle) (clears : Clears [location] middle after) :
    Leaves left before after := by
  refine leaves.clear clears ?_ (List.sublist_cons_self _ _) fun other member => ?_
  · exact List.forall_mem_singleton.mpr (leaves.used _ (List.mem_cons_self ..)).1
  · exact (List.mem_cons.mp member).imp_left List.mem_singleton.mpr

end Leaves

structure Stages (left : List Location) (before after : Disk) : Prop extends Leaves left before after where
  within : Tree.Within [] before.tree after.tree

namespace Stages

variable {left one two : List Location} {temporary : Temporary}

theorem of_alike (alike : Alike before after) : Stages [] before after where
  toLeaves := .of_kept alike.site alike.serial fun _ _ => by rw [alike.tree]
  within := alike.tree ▸ .refl _ _

theorem refl (disk : Disk) : Stages [] disk disk := of_alike ⟨rfl, rfl, rfl⟩

theorem trans (first : Stages one before middle) (second : Stages two middle after) : Stages (one ++ two) before after :=
  ⟨first.toLeaves.trans second.toLeaves, first.within.trans second.within⟩

theorem of_call (which : FaultyCall) (disk : Disk) : Stages [] disk (disk.call which).2 := of_alike (alike_call which disk)

theorem of_makeDirectories (plain : path.IsPlain) (disk : Disk) :
    Stages [] disk (disk.withTree (Tree.makeDirectories path disk.tree).2) := by
  unfold Tree.makeDirectories
  split
  · exact of_alike ⟨rfl, rfl, rfl⟩
  · obtain ⟨within, kept⟩ := Tree.within_makeDirectoriesFrom [] plain path.names.length disk.tree
    exact ⟨.of_kept rfl rfl kept, within⟩

theorem create (numbered : temporary.location.serial? = some before.serial)
    (tree : after.tree = before.tree.put temporary.location (.file [])) (site : after.site = before.site)
    (next : after.serial = before.serial + 1) : Stages [temporary.location] before after where
  toLeaves := .create numbered tree site next
  within := by
    have notGiven := Location.not_isGiven_of_serial? numbered
    rw [tree]
    exact Tree.within_put (fun apart => notGiven apart.1) fun given => absurd given notGiven

theorem fill (stages : Stages left before after) (member : temporary.location ∈ left) (bytes : Bytes) :
    Stages left before (after.fill temporary bytes) where
  toLeaves := stages.toLeaves.fill member bytes
  within := by
    have notGiven := stages.notGiven _ member
    exact stages.within.trans (Tree.within_put (fun apart => notGiven apart.1) fun given => absurd given notGiven)

theorem remove (stages : Stages (temporary.location :: left) before after) : Stages left before (after.remove temporary) where
  toLeaves := stages.toLeaves.clear_head (.remove (stages.notGiven _ (List.mem_cons_self ..)) _)
  within := stages.within.trans (Tree.within_erase (stages.notGiven _ (List.mem_cons_self ..)))

end Stages

theorem createBeside_eq_ok {temporary : Temporary} (created : disk.createBeside path = (.ok temporary, after)) :
    temporary.location.IsBeside path disk.serial ∧ Stages [temporary.location] disk after ∧
      after.tree.item? temporary.location = some (.file []) ∧ ∀ c ∈ path.name, Path.Takes c := by
  obtain ⟨sameTree, sameSite, sameSerial⟩ := alike_call .create disk
  unfold createBeside at created
  split at created
  · cases created
  · rename_i middle called
    rw [called] at sameTree sameSite sameSerial
    dsimp only at created sameTree sameSite sameSerial
    split at created
    · cases created
    · cases created
    · rename_i checked located
      split at created
      · cases created
      · obtain rfl := Tree.locate_eq_place located
        cases created
        have beside : Location.IsBeside (path.parent.place ++ [.temporary path.name middle.serial]) path disk.serial := by
          rw [sameSerial]
          rfl
        have numbered := beside.serial?
        have taken : ∀ c ∈ (Name.temporary path.name middle.serial).toText, Path.Takes c := fun c member =>
          Path.checkText_eq_ok_iff.mp checked c (List.mem_append_right _ member)
        refine ⟨beside, .create numbered (by rw [sameTree]) sameSite (by rw [sameSerial]), ?_, (Path.takes_temporary _).mp taken⟩
        exact Tree.item?_put (Location.not_isFixed_of_not_isGiven (Location.not_isGiven_of_serial? numbered))

theorem takes_absolute (home : Path.checkText disk.site.home = .ok ()) (checked : path.check = .ok ()) :
    ∀ c ∈ disk.absolute path, Path.Takes c := by
  have ofHome := Path.checkText_eq_ok_iff.mp home
  have ofNormal := Path.checkText_eq_ok_iff.mp (Path.check_normal checked)
  unfold absolute
  dsimp only
  split
  · exact ofNormal
  · split
    · exact ofHome
    · intro c member
      simp only [List.mem_append] at member
      rcases member with (member | member) | member
      · exact ofHome c member
      · exact List.mem_singleton.mp member ▸ Path.takes_separator
      · exact ofNormal c member

theorem createBeside_eq_error {mishap : Mishap} (refused : disk.createBeside path = (.error mishap, after)) :
    Alike disk after ∧ ((∃ fault, mishap = .disk fault) ∨
      ((∃ error, mishap = .encoding error) ∨ mishap = .nullByte) ∧ (Path.checkText disk.site.home = .ok () → path.check ≠ .ok ())) := by
  have called := alike_call .create disk
  unfold createBeside at refused
  split at refused
  · rename_i same
    rw [same] at called
    cases refused
    exact ⟨called, .inl ⟨_, rfl⟩⟩
  · rename_i same
    rw [same] at called
    dsimp only at refused called
    split at refused
    · rename_i unchecked
      cases refused
      refine ⟨called, .inr ⟨Path.cause_of_checkText unchecked, fun home checked => ?_⟩⟩
      have directory := takes_absolute (called.site ▸ home) (Path.check_parent checked)
      have name := (Path.takes_temporary after.serial).mpr (Path.takes_name checked)
      have taken := Path.checkText_eq_ok_iff.not.mp (by rw [unchecked]; simp)
      refine taken fun c member => ?_
      simp only [List.mem_append] at member
      rcases member with (member | member) | member
      · exact directory c member
      · exact List.mem_singleton.mp member ▸ Path.takes_separator
      · exact name c member
    · cases refused
      exact ⟨called, .inl ⟨_, rfl⟩⟩
    · split at refused
      · cases refused
        exact ⟨called, .inl ⟨_, rfl⟩⟩
      · cases refused

end Disk

namespace Artifacts

open Disk (Stages)

variable {path : Path} {text : Text} {disk before middle after : Disk} {tree : Tree} {temporary : Temporary}
  {result : Except Mishap Temporary}

def Holds (tree : Tree) (temporary : Temporary) (text : Text) : Prop :=
  ∃ bytes, Utf8.encode text = .ok bytes ∧ tree.item? temporary.location = some (.file bytes)

-- How one staging may end. A text that cannot be written is found out when its temporary
-- file is there, and nothing removes that one.
inductive Attempted (path : Path) (text : Text) (before after : Disk) : Except Mishap Temporary → Prop
  | waiting {temporary : Temporary} {serial : Nat} (checked : path.check = .ok ()) (beside : temporary.location.IsBeside path serial)
      (held : Holds after.tree temporary text) (stages : Stages [temporary.location] before after) :
    Attempted path text before after (.ok temporary)
  | refused (fault : DiskFault) (stages : Stages [] before after) : Attempted path text before after (.error (.disk fault))
  | untaken {mishap : Mishap} (cause : (∃ error, mishap = .encoding error) ∨ mishap = .nullByte)
      (unchecked : Path.checkText before.site.home = .ok () → path.check ≠ .ok ()) (stages : Stages [] before after) :
    Attempted path text before after (.error mishap)
  | spilled {error : Utf8EncodeError} {location : Location} {serial : Nat} (unencodable : Utf8.encode text = .error error)
      (beside : location.IsBeside path serial) (held : after.tree.item? location = some (.file []))
      (stages : Stages [location] before after) : Attempted path text before after (.error (.encoding error))

theorem Attempted.following (attempted : Attempted path text middle after result) (earlier : Stages [] before middle) :
    Attempted path text before after result := by
  cases attempted with
  | waiting checked beside held stages => exact .waiting checked beside held (earlier.trans stages)
  | refused fault stages => exact .refused fault (earlier.trans stages)
  | untaken cause unchecked stages => exact .untaken cause (earlier.site ▸ unchecked) (earlier.trans stages)
  | spilled unencodable beside held stages => exact .spilled unencodable beside held (earlier.trans stages)

theorem Attempted.stages_of_refused {fault : DiskFault} (attempted : Attempted path text before after (.error (.disk fault))) :
    Stages [] before after := by
  cases attempted with
  | refused fault stages => exact stages
  | untaken cause unchecked stages => exact stages

theorem attempted_makeDirectories (plain : path.IsPlain) {mishap : Mishap} {made : Tree}
    (refused : Tree.makeDirectories path.parent disk.tree = (.error mishap, made)) :
    Attempted path text disk (disk.withTree made) (.error mishap) := by
  have stages := Stages.of_makeDirectories (Path.isPlain_parent plain) disk
  rw [refused] at stages
  unfold Tree.makeDirectories at refused
  split at refused
  · rename_i unchecked
    cases refused
    refine .untaken (Path.cause_of_checkText unchecked) (fun _ checked => ?_) stages
    cases unchecked.symm.trans (Path.check_parent checked)
  · obtain ⟨same, rfl⟩ := Prod.mk.inj refused
    obtain ⟨fault, -, rfl⟩ := mapError_eq_error_iff.mp same
    exact .refused fault stages

theorem attempted_stageOnce (plain : path.IsPlain) (ran : stageOnce path text disk = (result, after)) :
    Attempted path text disk after result := by
  have made := Stages.of_makeDirectories (Path.isPlain_parent plain) disk
  unfold stageOnce at ran
  split at ran
  · rename_i refused
    cases ran
    exact attempted_makeDirectories plain refused
  · rename_i same
    have ofParent := Tree.check_of_makeDirectories same
    rw [same] at made
    dsimp only at made
    generalize disk.withTree _ = start at ran made
    refine Attempted.following ?_ made
    split at ran
    · rename_i refused
      cases ran
      obtain ⟨alike, ⟨fault, rfl⟩ | ⟨cause, unchecked⟩⟩ := Disk.createBeside_eq_error refused
      · exact .refused fault (.of_alike alike)
      · exact .untaken cause unchecked (.of_alike alike)
    · rename_i temporary opened created
      obtain ⟨beside, stages, empty, taken⟩ := Disk.createBeside_eq_ok created
      split at ran
      · rename_i unencodable
        cases ran
        exact .spilled unencodable beside empty stages
      · rename_i bytes encoded
        have filled := stages.fill (List.mem_singleton_self _) bytes
        have synced : Stages [temporary.location] start _ := filled.trans (.of_call .sync _)
        have kept := Disk.alike_call .sync (opened.fill temporary bytes)
        split at ran
        · rename_i fault last same
          rw [same] at synced
          cases ran
          exact .refused fault synced.remove
        · rename_i last same
          rw [same] at synced kept
          cases ran
          refine .waiting (Path.check_of_parent ofParent taken) beside ⟨bytes, encoded, ?_⟩ synced
          rw [kept.tree]
          exact Tree.item?_put (stages.used _ (List.mem_singleton_self _)).1.not_isFixed

end Artifacts

end ChangeCapture
