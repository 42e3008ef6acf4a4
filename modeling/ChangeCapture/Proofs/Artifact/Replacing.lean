import ChangeCapture.Proofs.Artifact.Preparing

namespace ChangeCapture.Artifacts

open Disk (Alike Clears Leaves)

variable {one : Staged} {bytes : Bytes} {start before middle after : Disk} {tree : Tree} {mishap : Mishap} {staged left : List Staged}
  {done : List (Staged × Unit)} {reason : Option Mishap}

-- The content of a waiting file comes to its place, and nothing else is changed.
structure Moves (one : Staged) (bytes : Bytes) (before after : Disk) : Prop where
  there : before.tree.item? one.temporary.location = some (.file bytes)
  located : before.tree.locate one.path = .ok one.path.place
  replaceable : before.tree.item? one.path.place ≠ some .directory
  tree : after.tree = (before.tree.erase one.temporary.location).put one.path.place (.file bytes)
  site : after.site = before.site
  serial : after.serial = before.serial

theorem Moves.of_alike (moves : Moves one bytes middle after) (alike : Alike before middle) : Moves one bytes before after where
  there := alike.tree ▸ moves.there
  located := alike.tree ▸ moves.located
  replaceable := alike.tree ▸ moves.replaceable
  tree := alike.tree ▸ moves.tree
  site := moves.site.trans alike.site
  serial := moves.serial.trans alike.serial

inductive Replacement (one : Staged) (before after : Disk) : Except Mishap Unit → Prop
  | moved {bytes : Bytes} (moves : Moves one bytes before after) : Replacement one before after (.ok ())
  | refused {fault : DiskFault} (alike : Alike before after) : Replacement one before after (.error (.disk fault))

theorem replacement_of_rename {result : Except DiskFault Unit} (ran : before.rename one.temporary one.path = (result, after)) :
    Replacement one before after (result.mapError .disk) := by
  have called := Disk.alike_call .rename before
  unfold Disk.rename at ran
  split at ran
  · rename_i same
    rw [same] at called
    cases ran
    exact .refused called
  · rename_i same
    rw [same] at called
    dsimp only at ran called
    split at ran
    · rename_i bytes location there located
      obtain rfl := Tree.locate_eq_place located
      split at ran
      · cases ran
        exact .refused called
      · split at ran
        · cases ran
          exact .refused called
        · rename_i replaceable
          cases ran
          exact .moved (Moves.of_alike ⟨there, located, replaceable, rfl, rfl, rfl⟩ called)
    · cases ran
      exact .refused called
    · cases ran
      exact .refused called

theorem replacement_of_replaceOnce {result : Except Mishap Unit} (ran : replaceOnce one before = (result, after)) :
    Replacement one before after result := by
  unfold replaceOnce at ran
  split at ran
  · rename_i moved
    cases ran
    exact replacement_of_rename moved
  · rename_i stayed
    cases ran
    exact replacement_of_rename stayed

theorem replacement_of_tried {result : Except Mishap Unit} (tried : Tried (replaceOnce one) before result after) :
    Replacement one before after result := by
  cases tried with
  | once ran final => exact replacement_of_replaceOnce ran
  | again refused ran =>
    cases replacement_of_replaceOnce refused with
    | refused alike =>
      cases replacement_of_replaceOnce ran with
      | moved moves => exact .moved (moves.of_alike alike)
      | refused later => exact .refused (alike.trans later)

namespace Moves

theorem within (moves : Moves one bytes before after) (notGiven : ¬one.temporary.location.isGiven) :
    Tree.Within [one.path.place] before.tree after.tree := by
  have apart : one.path.place ≠ one.temporary.location := fun same => notGiven (same ▸ one.path.isGiven_place)
  rw [moves.tree]
  refine (Tree.within_erase notGiven).trans (Tree.within_put (fun kept => kept.2 (List.mem_cons_self ..)) fun _ => ?_)
  rw [Tree.item?_erase_of_ne apart]
  exact moves.replaceable

theorem find (moves : Moves one bytes before after) (notGiven : ¬one.temporary.location.isGiven) :
    after.tree.find one.path = .ok (one.path.place, .file bytes) := by
  refine Tree.find_eq_ok_iff.mpr ⟨(moves.within notGiven).locate moves.located, ?_⟩
  rw [moves.tree]
  exact Tree.item?_put (Tree.not_fixed_of_item? moves.replaceable)

theorem clears (moves : Moves one bytes before after) (notGiven : ¬one.temporary.location.isGiven) :
    Clears [one.temporary.location] before after := by
  have same : ∀ location, ¬location.isGiven →
      after.tree.item? location = (before.tree.erase one.temporary.location).item? location := by
    intro location temporary
    have apart : location ≠ one.path.place := fun same => temporary (same ▸ one.path.isGiven_place)
    rw [moves.tree, Tree.item?_put_of_ne apart]
  refine ⟨moves.site, moves.serial, List.forall_mem_singleton.mpr ⟨notGiven, ?_⟩, fun location temporary apart => ?_⟩
  · rw [same _ notGiven]
    exact Tree.item?_erase (Location.not_isFixed_of_not_isGiven notGiven)
  · rw [same _ temporary]
    exact Tree.item?_erase_of_ne (List.ne_of_not_mem_cons apart)

end Moves

-- What replacements have done to the files: each waiting content that was taken has come
-- to its place, and no other file is changed.
structure Replaced (done : List Staged) (before after : Tree) : Prop where
  within : Tree.Within (done.map fun one => one.path.place) before after
  each : ∀ one ∈ done, ∀ bytes, before.item? one.temporary.location = some (.file bytes) →
    after.find one.path = .ok (one.path.place, .file bytes)

namespace Replaced

theorem nil (tree : Tree) : Replaced [] tree tree := ⟨.refl _ _, by simp⟩

theorem cons {done : List Staged} (moves : Moves one bytes before middle) (rest : Replaced done middle.tree after.tree)
    (waiting : ∀ other ∈ one :: done, ¬other.temporary.location.isGiven)
    (distinct : one.temporary.location ∉ temporaries done)
    (places : one.path.place ∉ done.map fun other => other.path.place) : Replaced (one :: done) before.tree after.tree := by
  have notGiven := waiting one (List.mem_cons_self ..)
  refine ⟨?_, fun other member content held => ?_⟩
  · refine Tree.Within.trans ((moves.within notGiven).mono ?_) (rest.within.mono (List.subset_cons_self _ _))
    exact List.cons_subset_cons _ (List.nil_subset _)
  · rcases List.mem_cons.mp member with rfl | listed
    · cases moves.there.symm.trans held
      exact rest.within.find (.inl places) (moves.find notGiven)
    · apply rest.each other listed content
      have apart : other.temporary.location ≠ one.temporary.location := fun same =>
        distinct (List.mem_map.mpr ⟨other, listed, same⟩)
      rw [(moves.clears notGiven).kept _ (waiting other member) (List.mem_singleton.not.mpr apart)]
      exact held

end Replaced

theorem Course.leaves (course : Course replaceOnce done left reason before after)
    (leaves : Leaves (temporaries (done.map Prod.fst ++ left)) start before) : Leaves (temporaries left) start after := by
  induction course with
  | through => exact leaves
  | stopped tried =>
    cases replacement_of_tried tried with
    | refused alike => exact leaves.of_alike alike
  | step tried _ ih =>
    cases replacement_of_tried tried with
    | moved moves => exact ih (leaves.clear_head (moves.clears (leaves.notGiven _ (List.mem_cons_self ..))))

theorem Course.replaced (course : Course replaceOnce done left reason before after)
    (waiting : ∀ one ∈ done.map Prod.fst, ¬one.temporary.location.isGiven)
    (distinct : (temporaries (done.map Prod.fst)).Nodup) (places : ((done.map Prod.fst).map fun one => one.path.place).Nodup) :
    Replaced (done.map Prod.fst) before.tree after.tree := by
  induction course with
  | through disk => exact .nil _
  | stopped tried =>
    cases replacement_of_tried tried with
    | refused alike =>
      rw [alike.tree]
      exact .nil _
  | step tried _ ih =>
    cases replacement_of_tried tried with
    | moved moves =>
      simp only [temporaries, List.map_cons, List.nodup_cons] at waiting distinct places
      have later := ih (fun other member => waiting other (List.mem_cons_of_mem _ member)) distinct.2 places.2
      exact .cons moves later waiting distinct.1 places.1

theorem Replaced.current {done : List Staged} {artifacts : Artifacts} {artifact : Path × Text} {later : Tree}
    (replaced : Replaced done tree later) (prepared : Prepared artifacts (done ++ left) tree)
    (places : (artifacts.map fun artifact => artifact.1.place).Nodup) (member : artifact ∈ artifacts)
    (apart : artifact.1.place ∉ left.map fun one => one.path.place) : isCurrent later artifact.1 artifact.2 = .ok true := by
  -- What was not staged was current already, and no replacement comes to its place.
  by_cases touched : artifact.1.place ∈ done.map fun one => one.path.place
  · obtain ⟨one, listed, same⟩ := List.mem_map.mp touched
    have present := List.mem_append_left left listed
    obtain ⟨text, ofOne, bytes, encoded, there⟩ := prepared.waiting one present
    have equal : (one.path, text) = artifact := List.inj_on_of_nodup_map places ofOne member same
    subst equal
    exact isCurrent_of_find (prepared.checked one present) (replaced.each one listed bytes there) (Content.text_of_encode encoded)
  · have current : isCurrent tree artifact.1 artifact.2 = .ok true := by
      rcases prepared.each artifact member with current | ⟨one, listed, same, -⟩
      · exact current
      · rcases List.mem_append.mp listed with listed | listed
        · exact absurd (List.mem_map.mpr ⟨one, listed, by rw [same]⟩) touched
        · exact absurd (List.mem_map.mpr ⟨one, listed, by rw [same]⟩) apart
    exact isCurrent_of_within current replaced.within touched

inductive Closes (done : List Staged) : List Staged → Option Mishap → Except Stopped (List Path) → Prop
  | through : Closes done [] none (.ok (done.map Staged.path))
  | stopped {one : Staged} {rest : List Staged} {mishap : Mishap} :
    Closes done (one :: rest) (some mishap) (.error (stopAt "replace" one.path mishap))

theorem Closes.cons {done left : List Staged} {outcome : Except Stopped (List Path)} (closes : Closes done left reason outcome) :
    Closes (one :: done) left reason (outcome.map (one.path :: ·)) := by
  cases closes with
  | through => exact .through
  | stopped => exact .stopped

theorem ends_replaceAll {before after : Desk} {outcome : Except Stopped (List Path)}
    (ended : Work.Ends (replaceAll staged) before outcome after) : ∃ done left reason, staged = done.map Prod.fst ++ left ∧
      Course replaceOnce done left reason before.disk after.disk ∧ Closes (done.map Prod.fst) left reason outcome := by
  induction staged generalizing before outcome with
  | nil =>
    cases ended
    exact ⟨[], [], none, rfl, .through _, .through⟩
  | cons one rest ih =>
    simp only [replaceAll, Work.ends_bind_iff] at ended
    obtain ⟨replaced, middle, first, ended⟩ := ended
    have tried := ends_tried first
    split at ended
    · rename_i mishap
      cases ended
      exact ⟨[], one :: rest, some mishap, rfl, .stopped tried, .stopped⟩
    · obtain ⟨_, told, tells, ended⟩ := Work.ends_bind_iff.mp ended
      obtain ⟨later, last, second, same⟩ := Work.ends_bind_iff.mp ended
      have sameDisk : told.disk = middle.disk := by rw [← Work.ends_tell_iff.mp tells]
      obtain ⟨rfl, rfl⟩ := Work.ends_pure_iff.mp same
      obtain ⟨done, left, reason, rfl, course, closes⟩ := ih second
      rw [sameDisk] at course
      exact ⟨(one, ()) :: done, left, reason, rfl, .step tried course, closes.cons⟩

theorem ends_clear {before after : Desk} {cleared : Unit} (ended : Work.Ends (clear staged) before cleared after)
    (waiting : ∀ location ∈ temporaries staged, ¬location.isGiven) :
    Clears (temporaries staged) before.disk after.disk ∧ Tree.Within [] before.disk.tree after.disk.tree := by
  cases ended
  dsimp only
  generalize before.disk = disk
  induction staged generalizing disk with
  | nil => exact ⟨.of_alike ⟨rfl, rfl, rfl⟩, .refl _ _⟩
  | cons one rest ih =>
    rw [temporaries, List.map_cons, List.forall_mem_cons] at waiting
    obtain ⟨clears, within⟩ := ih waiting.2 (disk.remove one.temporary)
    exact ⟨(Clears.remove waiting.1 disk).trans clears, (Tree.within_erase waiting.1).trans within⟩

end ChangeCapture.Artifacts
