import ChangeCapture.Proofs.Artifact.Temporaries

namespace ChangeCapture.Artifacts

open Disk (KeepsTemporaries Stages)

variable {artifacts : Artifacts} {start tree : Tree} {path : Path} {text : Text} {before after : Desk}
  {outcome : Except Stopped (List Path)}

-- An artifact that fits and whose path denotes a file, whether or not one is there: it
-- leads to what stands at its place. One that steps up from a directory that is missing
-- leads to nothing.
structure Denotes (tree : Tree) (path : Path) (text : Text) : Prop extends Fits tree path text where
  plain : path.IsPlain
  leads : ∀ bytes, tree.held? path = some bytes → tree.read path = .ok bytes

instance : Decidable (Denotes tree path text) :=
  decidable_of_iff (Fits tree path text ∧ path.IsPlain ∧ ∀ bytes ∈ tree.held? path, tree.read path = .ok bytes)
    ⟨fun all => ⟨all.1, all.2.1, all.2.2⟩, fun denotes => ⟨denotes.toFits, denotes.plain, denotes.leads⟩⟩

def changed (tree : Tree) (artifacts : Artifacts) : Artifacts :=
  artifacts.filter fun artifact => tree.held? artifact.1 ≠ (Utf8.encode artifact.2).toOption

-- Staging changes no file, so an artifact is compared with what its file held at the start.
theorem isCurrent_iff_of_denotes (denotes : Denotes start path text) (within : Tree.Within [] start tree) :
    isCurrent tree path text = .ok true ↔ start.held? path = (Utf8.encode text).toOption := by
  constructor
  · intro current
    obtain ⟨bytes, encoded, there⟩ := carries_of_isCurrent current
    rw [within.held? List.not_mem_nil] at there
    rw [there, encoded]
    rfl
  · intro held
    obtain ⟨bytes, encoded⟩ := denotes.encode
    rw [encoded] at held
    have read := within.read List.not_mem_nil (denotes.leads bytes held)
    obtain ⟨location, found⟩ := Tree.read_eq_ok_iff.mp read
    exact isCurrent_of_find denotes.checked found (Content.text_of_encode encoded)

theorem not_refused_of_denotes {mishap : Mishap} (denotes : Denotes start path text) (within : Tree.Within [] start tree) :
    isCurrent tree path text ≠ .error mishap := by
  intro refused
  rcases cause_of_isCurrent refused with ⟨long, -⟩ | ⟨bytes, held, undecodable⟩
  · exact denotes.short long
  · rw [within.held? List.not_mem_nil] at held
    obtain ⟨_, decoded⟩ := denotes.decodable bytes held
    cases undecodable.symm.trans decoded

theorem Attempted.refused_of_fits {disk later : Disk} {mishap : Mishap} (attempted : Attempted path text disk later (.error mishap))
    (home : Path.checkText disk.site.home = .ok ()) (fits : Fits start path text) : ∃ fault, mishap = .disk fault := by
  cases attempted with
  | refused fault stages => exact ⟨fault, rfl⟩
  | untaken cause unchecked stages => exact absurd fits.checked (unchecked home)
  | spilled unencodable =>
    obtain ⟨_, encoded⟩ := fits.encode
    cases unencodable.symm.trans encoded

def stageArtifact (artifact : Path × Text) : Disk → Except Mishap Temporary × Disk := stageOnce artifact.1 artifact.2

def waits (one : (Path × Text) × Temporary) : Staged := ⟨one.2, one.1.1⟩

inductive Stops : Artifacts → Option Mishap → Option Stopped → Prop
  | through : Stops [] none none
  | stopped {artifact : Path × Text} {rest : Artifacts} {fault : DiskFault} :
    Stops (artifact :: rest) (some (.disk fault)) (some (stopAt "stage" artifact.1 (.disk fault)))

theorem course_of_stageChanged {staged : List Staged} {stopped : Option Stopped} (home : Path.checkText before.disk.site.home = .ok ())
    (within : Tree.Within [] start before.disk.tree) (denotes : ∀ artifact ∈ artifacts, Denotes start artifact.1 artifact.2)
    (ended : Work.Ends (stageChanged artifacts) before (staged, stopped) after) : ∃ done left reason,
      changed start artifacts = done.map Prod.fst ++ left ∧ staged = done.map waits ∧
        Course stageArtifact done left reason before.disk after.disk ∧ Stops left reason stopped := by
  induction artifacts generalizing before staged stopped with
  | nil =>
    cases ended
    exact ⟨[], [], none, rfl, rfl, .through _, .through⟩
  | cons artifact rest ih =>
    rcases artifact with ⟨path, text⟩
    have here := denotes _ (List.mem_cons_self ..)
    have behind : ∀ artifact ∈ rest, Denotes start artifact.1 artifact.2 := fun artifact member =>
      denotes artifact (List.mem_cons_of_mem _ member)
    simp only [stageChanged, Work.ends_bind_iff, Work.ends_tree_iff] at ended
    obtain ⟨tree, _, ⟨rfl, rfl⟩, ended⟩ := ended
    split at ended
    · rename_i refused
      exact absurd refused (not_refused_of_denotes here within)
    · rename_i current
      obtain ⟨_, middle, told, ended⟩ := Work.ends_bind_iff.mp ended
      have same : middle.disk = before.disk := by rw [← Work.ends_tell_iff.mp told]
      rw [isCurrent_iff_of_denotes here within] at current
      obtain ⟨done, left, reason, parts, waiting, course, stops⟩ := ih (same ▸ home) (same ▸ within) behind ended
      refine ⟨done, left, reason, ?_, waiting, same ▸ course, stops⟩
      rw [changed, List.filter_cons_of_neg (by simpa using current)]
      exact parts
    · rename_i differs
      have unlike : ¬start.held? path = (Utf8.encode text).toOption := by
        rw [← isCurrent_iff_of_denotes here within, differs]
        simp
      have first : changed start ((path, text) :: rest) = (path, text) :: changed start rest :=
        List.filter_cons_of_pos (by simpa using unlike)
      rw [first]
      obtain ⟨result, middle, staging, ended⟩ := Work.ends_bind_iff.mp ended
      have tried : Tried (stageArtifact (path, text)) before.disk result middle.disk := ends_tried staging
      have attempted := attempted_stage here.plain staging
      split at ended
      · cases ended
        obtain ⟨fault, rfl⟩ := attempted.refused_of_fits home here.toFits
        exact ⟨[], _, _, rfl, rfl, .stopped tried, .stopped⟩
      · rename_i temporary
        obtain ⟨⟨later, stopped'⟩, last, second, same⟩ := Work.ends_bind_iff.mp ended
        cases same
        cases attempted with
        | waiting _ _ _ stages =>
          obtain ⟨done, left, reason, parts, waiting, course, stops⟩ :=
            ih (stages.site.symm ▸ home) (within.trans stages.within) behind second
          refine ⟨((path, text), temporary) :: done, left, reason, ?_, ?_, .step tried course, stops⟩
          · rw [parts]
            rfl
          · rw [List.map_cons, ← waiting]
            rfl

structure History where
  stagings : List (List (Except Mishap Temporary))
  renames : List (List (Except Mishap Unit))

def history (changed : Artifacts) (disk : Disk) : History :=
  let (stagings, ready) := tries stageArtifact changed disk
  let staged := (changed.zip (stagings.filterMap gained?)).map waits
  ⟨stagings, if staged.length = changed.length then (tries replaceOnce staged ready).1 else []⟩

section

variable {done : List ((Path × Text) × Temporary)} {disk ready : Disk}

theorem history_of_staged (course : Course stageArtifact done [] none disk ready) : ∃ rows, AllSucceed (done.map Prod.fst) rows ∧
    history (done.map Prod.fst) disk = ⟨rows, (tries replaceOnce (done.map waits) ready).1⟩ := by
  obtain ⟨rows, same, values, shows⟩ := tries_of_course course
  rw [List.append_nil] at same
  cases shows with
  | through succeed =>
    refine ⟨rows, succeed, ?_⟩
    have paired : (done.map Prod.fst).zip (rows.filterMap gained?) = done := by
      rw [values]
      exact (List.zip_of_prod rfl rfl).symm
    unfold history
    rw [same]
    dsimp only
    rw [paired, if_pos (by simp)]

theorem history_of_halted {artifact : Path × Text} {left : Artifacts} {mishap : Mishap}
    (course : Course stageArtifact done (artifact :: left) (some mishap) disk ready) : ∃ ahead results,
      AllSucceed (done.map Prod.fst) ahead ∧ Fails results mishap ∧
        history (done.map Prod.fst ++ artifact :: left) disk = ⟨ahead ++ [results], []⟩ := by
  obtain ⟨rows, same, values, shows⟩ := tries_of_course course
  cases shows with
  | @stopped _ ahead results _ parts succeed fails =>
    refine ⟨ahead, results, succeed, fails, ?_⟩
    unfold history
    rw [same]
    dsimp only
    rw [values, if_neg (by simp), parts]

end

-- A write that returns: it tells the artifacts that changed, each artifact has its text in
-- full, and to write the same again changes nothing.
structure Completed (artifacts : Artifacts) (before after : Disk) (written : List Path) : Prop where
  written : written = (changed before.tree artifacts).map Prod.fst
  carries : ∀ artifact ∈ artifacts, Carries after.tree artifact.1 artifact.2
  repeats : Work.Keeps (write artifacts) after (.ok [])

-- A write that fails at a path. While staging it has changed no artifact; while renaming
-- it has replaced those before the path, and no others.
inductive Interrupted (artifacts : Artifacts) (before after : Disk) (tried : History) (path : Path) : Stopped → Prop
  | staging {done left : Artifacts} {text : Text} {ahead : List (List (Except Mishap Temporary))}
      {results : List (Except Mishap Temporary)} {fault : DiskFault}
      (parts : changed before.tree artifacts = done ++ (path, text) :: left) (rows : tried = ⟨ahead ++ [results], []⟩)
      (staged : AllSucceed done ahead) (fails : Fails results (.disk fault))
      (kept : ∀ artifact ∈ artifacts, after.tree.held? artifact.1 = before.tree.held? artifact.1) :
    Interrupted artifacts before after tried path (stopAt "stage" path (.disk fault))
  | replacing {done left : Artifacts} {text : Text} {stagings : List (List (Except Mishap Temporary))}
      {ahead : List (List (Except Mishap Unit))} {results : List (Except Mishap Unit)} {fault : DiskFault}
      (parts : changed before.tree artifacts = done ++ (path, text) :: left) (rows : tried = ⟨stagings, ahead ++ [results]⟩)
      (staged : AllSucceed (changed before.tree artifacts) stagings) (renamed : AllSucceed done ahead)
      (fails : Fails results (.disk fault)) (carries : ∀ artifact ∈ done, Carries after.tree artifact.1 artifact.2)
      (kept : ∀ artifact ∈ artifacts, artifact ∉ done → after.tree.held? artifact.1 = before.tree.held? artifact.1) :
    Interrupted artifacts before after tried path (stopAt "replace" path (.disk fault))

def SameFile (before after : Tree) (location : Location) : Prop :=
  ∀ bytes, after.item? location = some (.file bytes) ↔ before.item? location = some (.file bytes)

theorem sameFile_of_within {touched : List Location} {before after : Disk} {location : Location}
    (within : Tree.Within touched before.tree after.tree) (kept : KeepsTemporaries [] before after) (apart : location ∉ touched) :
    SameFile before.tree after.tree location := by
  intro bytes
  by_cases given : location.isGiven
  · exact ⟨within.item?_of_file ⟨given, apart⟩, within.item?_of_some ⟨given, apart⟩⟩
  · rw [kept location given List.not_mem_nil]

theorem places_waits (done : List ((Path × Text) × Temporary)) :
    ((done.map waits).map fun one => one.path.place) = (done.map Prod.fst).map fun artifact => artifact.1.place := by
  simp [waits]

structure Decided (artifacts : Artifacts) (before after : Disk) (tried : History) (outcome : Except Stopped (List Path)) : Prop where
  returns : (∃ written, outcome = .ok written) ↔
    AllSucceed (changed before.tree artifacts) tried.stagings ∧ AllSucceed (changed before.tree artifacts) tried.renames
  completed : ∀ written, outcome = .ok written → Completed artifacts before after written
  interrupted : ∀ reason, outcome = .error reason → ∃ path, IsFailedWrite path reason ∧
    Interrupted artifacts before after tried path reason
  others : ∀ location, (∀ artifact ∈ artifacts, location ≠ artifact.1.place) → SameFile before.tree after.tree location

theorem decided_of_halted {before after : Disk} {done : List ((Path × Text) × Temporary)} {left : Artifacts}
    {mishap : Option Mishap} {reason : Stopped} {ready : Disk} (parts : changed before.tree artifacts = done.map Prod.fst ++ left)
    (course : Course stageArtifact done left mishap before ready) (stops : Stops left mishap (some reason))
    (within : Tree.Within [] before.tree after.tree) (kept : KeepsTemporaries [] before after) :
    Decided artifacts before after (history (changed before.tree artifacts) before) (.error reason) := by
  cases stops with
  | @stopped artifact rest fault =>
    obtain ⟨ahead, results, staged, fails, rows⟩ := history_of_halted course
    rw [parts, rows]
    refine ⟨⟨fun returned => ?_, fun all => absurd all.1 fails.not_allSucceed⟩, fun written same => ?_, fun other same => ?_,
      fun location apart => sameFile_of_within within kept List.not_mem_nil⟩
    · obtain ⟨_, same⟩ := returned
      cases same
    · cases same
    · cases same
      have untouched : ∀ artifact ∈ artifacts, after.tree.held? artifact.1 = before.tree.held? artifact.1 :=
        fun artifact _ => within.held? List.not_mem_nil
      exact ⟨artifact.1, isFailedWrite_stopAt _ _ _, .staging parts rfl staged fails untouched⟩

structure Halfway (artifacts first rest : Artifacts) (before after : Tree) : Prop where
  parts : changed before artifacts = first ++ rest
  places : (artifacts.map fun artifact => artifact.1.place).Nodup
  within : Tree.Within (first.map fun artifact => artifact.1.place) before after
  current : ∀ artifact ∈ artifacts, artifact.1.place ∉ (rest.map fun artifact => artifact.1.place) →
    isCurrent after artifact.1 artifact.2 = .ok true

namespace Halfway

variable {first rest : Artifacts} {before after : Disk}

theorem subset (halfway : Halfway artifacts first rest before.tree after.tree) : first ⊆ artifacts := by
  intro artifact member
  have listed : artifact ∈ changed before.tree artifacts := by
    rw [halfway.parts]
    exact List.mem_append_left _ member
  exact (List.mem_filter.mp listed).1

theorem carries (halfway : Halfway artifacts first rest before.tree after.tree) :
    ∀ artifact ∈ first, Carries after.tree artifact.1 artifact.2 := by
  intro artifact member
  have ofChanged : ((changed before.tree artifacts).map fun artifact => artifact.1.place).Nodup :=
    halfway.places.sublist (List.filter_sublist.map _)
  rw [halfway.parts, List.map_append, List.nodup_append] at ofChanged
  refine carries_of_isCurrent (halfway.current artifact (halfway.subset member) fun waits => ?_)
  exact ofChanged.2.2 _ (List.mem_map_of_mem member) _ waits rfl

theorem kept (halfway : Halfway artifacts first rest before.tree after.tree) :
    ∀ artifact ∈ artifacts, artifact ∉ first → after.tree.held? artifact.1 = before.tree.held? artifact.1 := by
  intro artifact member apart
  refine halfway.within.held? fun touched => apart ?_
  obtain ⟨other, listed, same⟩ := List.mem_map.mp touched
  have equal : other = artifact := List.inj_on_of_nodup_map halfway.places (halfway.subset listed) member same
  exact equal ▸ listed

theorem others (halfway : Halfway artifacts first rest before.tree after.tree) (kept : KeepsTemporaries [] before after)
    {location : Location} (apart : ∀ artifact ∈ artifacts, location ≠ artifact.1.place) :
    SameFile before.tree after.tree location := by
  refine sameFile_of_within halfway.within kept fun touched => ?_
  obtain ⟨artifact, listed, same⟩ := List.mem_map.mp touched
  exact apart artifact (halfway.subset listed) same.symm

theorem completed (halfway : Halfway artifacts first [] before.tree after.tree) :
    Completed artifacts before after ((changed before.tree artifacts).map Prod.fst) := by
  have current := fun artifact member => halfway.current artifact member List.not_mem_nil
  exact ⟨rfl, fun artifact member => carries_of_isCurrent (current artifact member), keeps_write current⟩

end Halfway

theorem halfway_of_replaced {done : List ((Path × Text) × Temporary)} {renamed : List (Staged × Unit)} {left : List Staged}
    {before ready last : Disk} {after : Tree} (parts : changed before.tree artifacts = done.map Prod.fst)
    (places : (artifacts.map fun artifact => artifact.1.place).Nodup) (waiting : renamed.map Prod.fst ++ left = done.map waits)
    (stages : Stages (temporaries (renamed.map Prod.fst ++ left)) before ready)
    (prepared : Prepared artifacts (renamed.map Prod.fst ++ left) ready.tree)
    (replaced : Replaced (renamed.map Prod.fst) ready.tree last.tree) (cleared : Tree.Within [] last.tree after) :
    ∃ front back, done = front ++ back ∧ front.map waits = renamed.map Prod.fst ∧ back.map waits = left ∧
      Halfway artifacts (front.map Prod.fst) (back.map Prod.fst) before.tree after := by
  obtain ⟨front, back, rfl, ofFront, ofBack⟩ := List.map_eq_append_iff.mp waiting.symm
  refine ⟨front, back, rfl, ofFront, ofBack, by rw [parts, List.map_append], places, ?_, fun artifact member apart => ?_⟩
  · refine replaced.whole stages cleared ?_
    rw [← ofFront, places_waits]
    exact List.Subset.refl _
  · rw [← places_waits, ofBack] at apart
    exact isCurrent_of_within (replaced.current prepared places member apart) cleared List.not_mem_nil

theorem decided_of_halfway {front back : List ((Path × Text) × Temporary)} {renamed : List (Staged × Unit)} {left : List Staged}
    {mishap : Option Mishap} {before after ready last : Disk}
    (halfway : Halfway artifacts (front.map Prod.fst) (back.map Prod.fst) before.tree after.tree)
    (ofFront : front.map waits = renamed.map Prod.fst) (ofBack : back.map waits = left)
    (staging : Course stageArtifact (front ++ back) [] none before ready)
    (replacing : Course replaceOnce renamed left mishap ready last) (closes : Closes (renamed.map Prod.fst) left mishap outcome)
    (kept : KeepsTemporaries [] before after) :
    Decided artifacts before after (history (changed before.tree artifacts) before) outcome := by
  have parts : changed before.tree artifacts = (front ++ back).map Prod.fst := by rw [halfway.parts, List.map_append]
  have others : ∀ location, (∀ artifact ∈ artifacts, location ≠ artifact.1.place) → SameFile before.tree after.tree location :=
    fun _ apart => halfway.others kept apart
  have asMany : (renamed.map Prod.fst).length = (front.map Prod.fst).length := by
    rw [← ofFront, List.length_map, List.length_map]
  obtain ⟨stagings, staged, same⟩ := history_of_staged staging
  obtain ⟨renames, tried, -, shows⟩ := tries_of_course replacing
  rw [← parts, List.map_append, ofFront, ofBack, tried] at same
  rw [← parts] at staged
  rw [same]
  cases closes with
  | through =>
    obtain rfl := List.map_eq_nil_iff.mp ofBack
    rw [List.append_nil] at parts
    cases shows with
    | through succeed =>
      have renamedAll : AllSucceed (changed before.tree artifacts) renames := succeed.of_length (by rw [parts, asMany])
      refine ⟨iff_of_true ⟨_, rfl⟩ ⟨staged, renamedAll⟩, fun written same => ?_, fun reason same => ?_, others⟩
      · cases same
        have paths : (renamed.map Prod.fst).map Staged.path = (changed before.tree artifacts).map Prod.fst := by
          rw [← ofFront, parts, List.map_map, List.map_map]
          rfl
        rw [paths]
        exact halfway.completed
      · cases same
  | @stopped one rest mishap =>
    obtain ⟨fault, rfl⟩ := replacing.refused rfl
    obtain ⟨artifact, behind, rfl, rfl, -⟩ := List.map_eq_cons_iff.mp ofBack
    cases shows with
    | @stopped _ ahead results _ rows succeed fails =>
      subst rows
      refine ⟨iff_of_false (fun returned => ?_) (fun all => absurd all.2 fails.not_allSucceed), fun written same => ?_,
        fun reason same => ?_, others⟩
      · obtain ⟨_, same⟩ := returned
        cases same
      · cases same
      · cases same
        refine ⟨artifact.1.1, isFailedWrite_stopAt _ _ _, ?_⟩
        exact .replacing halfway.parts rfl staged (succeed.of_length asMany) fails halfway.carries halfway.kept

-- The attempts decide how writing ends and what it has changed: it returns if every
-- artifact that changed was staged and renamed, and else it stops at the first that was not.
theorem write_of_attempts (sound : before.disk.Sound) (places : (artifacts.map fun artifact => artifact.1.place).Nodup)
    (denotes : ∀ artifact ∈ artifacts, Denotes before.disk.tree artifact.1 artifact.2)
    (ended : Work.Ends (write artifacts) before outcome after) :
    Decided artifacts before.disk after.disk (history (changed before.disk.tree artifacts) before.disk) outcome := by
  have writes := ends_write_cases (fun artifact member => (denotes artifact member).plain) ended
  obtain ⟨kept, -⟩ := (writes.aftermath sound).2.clean sound fun artifact member => (denotes artifact member).toFits
  cases writes with
  | halted ran halts leaves within =>
    obtain ⟨done, left, mishap, parts, -, course, stops⟩ := course_of_stageChanged sound.home (.refl _ _) denotes ran
    exact decided_of_halted parts course stops within kept
  | replaced ran stages prepared replacing closes leaves cleared =>
    obtain ⟨done, _, _, parts, waiting, staging, stops⟩ := course_of_stageChanged sound.home (.refl _ _) denotes ran
    cases stops
    rw [List.append_nil] at parts
    have replaced := prepared.replaced stages replacing places
    obtain ⟨front, back, rfl, ofFront, ofBack, halfway⟩ :=
      halfway_of_replaced parts places waiting stages prepared replaced cleared
    exact decided_of_halfway halfway ofFront ofBack staging replacing closes kept

section Sample

-- Three files, of which the first is current. The system refuses the first temporary file,
-- and it does not rename the last one.
def mixedArtifacts : Artifacts := [(.ofText "a.json", "1\n"), (.ofText "b.json", "2\n"), (.ofText "c/c.json", "3\n")]

def mixedDesk : Desk where
  disk.tree.entries := [([.given "a.json"], .file [49, 10]), ([.given "b.json"], .file [48])]
  disk.site := ⟨"/", []⟩
  disk.serial := 0
  disk.faults := ⟨[true], [], [false, true, true]⟩
  log := []

theorem write_of_mixed : ∃ (outcome : Except Stopped (List Path)) (after : Desk), mixedDesk.disk.Sound ∧
    (mixedArtifacts.map fun artifact => artifact.1.place).Nodup ∧
    (∀ artifact ∈ mixedArtifacts, Denotes mixedDesk.disk.tree artifact.1 artifact.2) ∧
    Work.Ends (write mixedArtifacts) mixedDesk outcome after ∧
    Decided mixedArtifacts mixedDesk.disk after.disk (history (changed mixedDesk.disk.tree mixedArtifacts) mixedDesk.disk) outcome ∧
    mixedArtifacts.map (fun artifact => after.disk.tree.held? artifact.1) = [some [49, 10], some [50, 10], none] := by
  have sound : mixedDesk.disk.Sound := Disk.sound_of_given (by decide) (by decide +kernel)
  have places : (mixedArtifacts.map fun artifact => artifact.1.place).Nodup := by decide +kernel
  have denotes : ∀ artifact ∈ mixedArtifacts, Denotes mixedDesk.disk.tree artifact.1 artifact.2 := by decide +kernel
  have ended : Work.Ends (write mixedArtifacts) mixedDesk _ _ := rfl
  exact ⟨_, _, sound, places, denotes, ended, write_of_attempts sound places denotes ended, by decide +kernel⟩

end Sample

end ChangeCapture.Artifacts
