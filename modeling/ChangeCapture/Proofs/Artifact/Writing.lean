import ChangeCapture.Proofs.Artifact.Replacing

namespace ChangeCapture.Artifacts

open Disk (Clears Leaves Stages)

variable {before after : Desk} {artifacts : Artifacts} {staged : List Staged} {outcome : Except Stopped (List Path)}

-- How writing ends: the staging stops it, or everything is staged and then replaced in
-- order. In either case what was told to wait is cleared.
inductive Writes (artifacts : Artifacts) (before after : Desk) : Except Stopped (List Path) → Prop
  | halted {staged : List Staged} {spilled : List Location} {reason : Stopped} {ready : Desk}
      (ran : Work.Ends (stageChanged artifacts) before (staged, some reason) ready)
      (halts : Halts artifacts before.disk after.disk spilled reason) (leaves : Leaves spilled before.disk after.disk)
      (within : Tree.Within [] before.disk.tree after.disk.tree) : Writes artifacts before after (.error reason)
  | replaced {done : List (Staged × Unit)} {left : List Staged} {reason : Option Mishap} {ready last : Desk}
      {outcome : Except Stopped (List Path)}
      (ran : Work.Ends (stageChanged artifacts) before (done.map Prod.fst ++ left, none) ready)
      (stages : Stages (temporaries (done.map Prod.fst ++ left)) before.disk ready.disk)
      (prepared : Prepared artifacts (done.map Prod.fst ++ left) ready.disk.tree)
      (course : Course replaceOnce done left reason ready.disk last.disk) (closes : Closes (done.map Prod.fst) left reason outcome)
      (leaves : Leaves [] before.disk after.disk) (within : Tree.Within [] last.disk.tree after.disk.tree) :
    Writes artifacts before after outcome

theorem ends_write_cases (plain : ∀ artifact ∈ artifacts, artifact.1.IsPlain)
    (ended : Work.Ends (write artifacts) before outcome after) : Writes artifacts before after outcome := by
  simp only [write, Work.ends_bind_iff] at ended
  obtain ⟨⟨staged, stopped⟩, ready, first, rest⟩ := ended
  dsimp only at rest
  cases ends_stageChanged plain first with
  | halted stages halts =>
    rename_i reason spilled
    simp only [Work.ends_bind_iff, Work.ends_pure_iff] at rest
    obtain ⟨_, _, ⟨rfl, rfl⟩, _, cleared, third, rfl, rfl⟩ := rest
    have apart := List.nodup_append.mp stages.distinct
    obtain ⟨clears, within⟩ := ends_clear third fun location member => stages.notGiven location (List.mem_append_left _ member)
    refine .halted first (halts.later fun location member => ?_) ?_ (stages.within.trans within)
    · refine clears.kept location (stages.notGiven location (List.mem_append_right _ member)) fun waits => ?_
      exact apart.2.2 location waits location member rfl
    · refine stages.toLeaves.clear clears ?_ (List.sublist_append_right _ _) fun location member => List.mem_append.mp member
      exact fun location member => (stages.used location (List.mem_append_left _ member)).1
  | prepared stages prepared =>
    simp only [Work.ends_bind_iff, Work.ends_pure_iff] at rest
    obtain ⟨_, last, second, _, cleared, third, rfl, rfl⟩ := rest
    obtain ⟨done, left, reason, rfl, course, closes⟩ := ends_replaceAll second
    obtain ⟨clears, within⟩ := ends_clear third stages.notGiven
    refine .replaced first stages prepared course closes ?_ within
    have new := fun location member => (stages.used location member).1
    refine (course.leaves stages.toLeaves).clear clears new (List.nil_sublist _) fun location member => .inl ?_
    rw [temporaries, List.map_append]
    exact List.mem_append_right _ member

theorem site_of_write (plain : ∀ artifact ∈ artifacts, artifact.1.IsPlain)
    (ended : Work.Ends (write artifacts) before outcome after) : after.disk.site = before.disk.site := by
  cases ends_write_cases plain ended with
  | halted ran halts leaves within => exact leaves.site
  | replaced ran stages prepared course closes leaves within => exact leaves.site

-- What has been replaced of the waiting files parts the artifacts in those up to there and
-- those behind, since they are staged in their order.
theorem exists_split {done left : List Staged} (paths : ((done ++ left).map Staged.path).Sublist (artifacts.map Prod.fst))
    (places : (artifacts.map fun artifact => artifact.1.place).Nodup) : ∃ first rest, artifacts = first ++ rest ∧
      (done.map fun one => one.path.place) ⊆ (first.map fun artifact => artifact.1.place) ∧
      ∀ artifact ∈ first, artifact.1.place ∉ left.map fun one => one.path.place := by
  rw [List.map_append, List.append_sublist_iff] at paths
  obtain ⟨_, _, parted, ofDone, ofLeft⟩ := paths
  obtain ⟨first, rest, rfl, rfl, rfl⟩ := List.map_eq_append_iff.mp parted
  rw [List.map_append, List.nodup_append] at places
  refine ⟨first, rest, rfl, fun location member => ?_, fun artifact member listed => ?_⟩
  · obtain ⟨one, there, rfl⟩ := List.mem_map.mp member
    obtain ⟨artifact, kept, same⟩ := List.mem_map.mp (ofDone.subset (List.mem_map_of_mem there))
    exact List.mem_map.mpr ⟨artifact, kept, congrArg Path.place same⟩
  · obtain ⟨one, there, same⟩ := List.mem_map.mp listed
    obtain ⟨other, kept, equal⟩ := List.mem_map.mp (ofLeft.subset (List.mem_map_of_mem there))
    refine places.2.2 _ (List.mem_map_of_mem member) _ (List.mem_map_of_mem kept) ?_
    rw [equal]
    exact same.symm

theorem Prepared.replaced {done : List (Staged × Unit)} {left : List Staged} {reason : Option Mishap} {start ready last : Disk}
    (prepared : Prepared artifacts (done.map Prod.fst ++ left) ready.tree)
    (stages : Stages (temporaries (done.map Prod.fst ++ left)) start ready) (course : Course replaceOnce done left reason ready last)
    (places : (artifacts.map fun artifact => artifact.1.place).Nodup) :
    Replaced (done.map Prod.fst) ready.tree last.tree := by
  have distinct := stages.distinct
  have ofStaged := places.sublist prepared.places
  rw [temporaries, List.map_append, List.nodup_append] at distinct
  rw [List.map_append, List.nodup_append] at ofStaged
  refine course.replaced (fun one member => stages.notGiven _ ?_) distinct.1 ofStaged.1
  exact List.mem_map.mpr ⟨one, List.mem_append_left left member, rfl⟩

theorem Replaced.whole {done : List Staged} {left touched : List Location} {start ready : Disk} {last later : Tree}
    (replaced : Replaced done ready.tree last) (stages : Stages left start ready) (cleared : Tree.Within [] last later)
    (sub : (done.map fun one => one.path.place) ⊆ touched) : Tree.Within touched start.tree later :=
  (stages.within.mono (List.nil_subset _)).trans ((replaced.within.mono sub).trans (cleared.mono (List.nil_subset _)))

-- However writing ends, the first so many of the artifacts are in their places in full,
-- and no other file is changed. When it succeeds these are all of them.
theorem advances_write (plain : ∀ artifact ∈ artifacts, artifact.1.IsPlain)
    (places : (artifacts.map fun artifact => artifact.1.place).Nodup)
    (ended : Work.Ends (write artifacts) before outcome after) : ∃ done left, artifacts = done ++ left ∧
      Tree.Within (done.map fun artifact => artifact.1.place) before.disk.tree after.disk.tree ∧
      (∀ artifact ∈ done, isCurrent after.disk.tree artifact.1 artifact.2 = .ok true) ∧
      ∀ written, outcome = .ok written → left = [] := by
  cases ends_write_cases plain ended with
  | halted ran halts leaves within => exact ⟨[], artifacts, rfl, within, by simp, fun _ same => by cases same⟩
  | @replaced done left reason ready last outcome ran stages prepared course closes leaves cleared =>
    have replaced := prepared.replaced stages course places
    have current : ∀ artifact ∈ artifacts, artifact.1.place ∉ left.map (fun one => one.path.place) →
        isCurrent after.disk.tree artifact.1 artifact.2 = .ok true := fun artifact member apart =>
      isCurrent_of_within (replaced.current prepared places member apart) cleared List.not_mem_nil
    by_cases all : left = []
    · subst all
      rw [List.append_nil] at prepared
      exact ⟨artifacts, [], (List.append_nil _).symm, replaced.whole stages cleared prepared.places.subset,
        fun artifact member => current artifact member List.not_mem_nil, fun _ _ => rfl⟩
    · obtain ⟨ahead, behind, rfl, sub, apart⟩ := exists_split prepared.paths places
      refine ⟨ahead, behind, rfl, replaced.whole stages cleared sub, fun artifact member => ?_, fun written same => ?_⟩
      · exact current artifact (List.mem_append_left _ member) (apart artifact member)
      · subst same
        cases closes
        exact absurd rfl all

theorem ends_write {written : List Path} (plain : ∀ artifact ∈ artifacts, artifact.1.IsPlain)
    (places : (artifacts.map fun artifact => artifact.1.place).Nodup)
    (ended : Work.Ends (write artifacts) before (.ok written) after) :
    Tree.Within (artifacts.map fun artifact => artifact.1.place) before.disk.tree after.disk.tree ∧
      ∀ artifact ∈ artifacts, isCurrent after.disk.tree artifact.1 artifact.2 = .ok true := by
  obtain ⟨done, left, rfl, within, current, finished⟩ := advances_write plain places ended
  obtain rfl := finished written rfl
  rw [List.append_nil]
  exact ⟨within, current⟩

def IsRefusal : Stopped → Prop
  | .failure failure => failure.kind = .writeFailed
  | .mishap _ => True

theorem isRefusal_stopAt (verb : Text) (path : Path) (mishap : Mishap) : IsRefusal (stopAt verb path mishap) := by
  unfold stopAt
  split
  · rfl
  · trivial

theorem isRefusal_of_write {reason : Stopped} (plain : ∀ artifact ∈ artifacts, artifact.1.IsPlain)
    (ended : Work.Ends (write artifacts) before (.error reason) after) : IsRefusal reason := by
  cases ends_write_cases plain ended with
  | halted ran halts leaves within =>
    cases halts with
    | refused listed => exact isRefusal_stopAt _ _ _
    | obstructed listed obstructs => trivial
    | spilled listed unencodable beside held => trivial
  | replaced ran stages prepared course closes leaves within =>
    cases closes
    exact isRefusal_stopAt _ _ _

theorem keeps_write {disk : Disk} (current : ∀ artifact ∈ artifacts, isCurrent disk.tree artifact.1 artifact.2 = .ok true) :
    Work.Keeps (write artifacts) disk (.ok []) := by
  have unchanged : Work.Keeps (stageChanged artifacts) disk ([], none) := by
    induction artifacts with
    | nil => exact Work.keeps_pure _
    | cons artifact rest ih =>
      rcases artifact with ⟨path, text⟩
      apply Work.keeps_bind (Work.keeps_tree disk)
      rw [current _ (List.mem_cons_self ..)]
      exact Work.keeps_bind (Work.keeps_tell _ _ _) (ih fun artifact member => current artifact (List.mem_cons_of_mem _ member))
  apply Work.keeps_bind unchanged
  exact fun log => ⟨log, rfl⟩

end ChangeCapture.Artifacts
