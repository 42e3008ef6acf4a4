import ChangeCapture.Artifact.Writing
import ChangeCapture.Proofs.Retry
import ChangeCapture.Proofs.Work

namespace ChangeCapture.Artifacts

variable {ι α : Type} {before after : Disk} {result : Except Mishap α}

inductive Tried (action : Disk → Except Mishap α × Disk) (before : Disk) (result : Except Mishap α) (after : Disk) : Prop
  | once (ran : action before = (result, after)) (final : ∀ fault, result ≠ .error (.disk fault))
  | again {fault : DiskFault} {middle : Disk} (refused : action before = (.error (.disk fault), middle))
      (ran : action middle = (result, after))

theorem ends_tried {name : Text} {action : Disk → Except Mishap α × Disk} {before after : Desk}
    (ended : Work.Ends (tried name action) before result after) : Tried action before.disk result after.disk := by
  have cases := Retry.twice_cases name isDisk Mishap.message action before.disk
  cases ended
  rcases cases with ⟨ran, final⟩ | ⟨failure, middle, retried, refused, ran⟩
  · refine .once ran fun fault same => ?_
    exact final (.disk fault) same rfl
  · cases failure with
    | disk fault => exact .again refused ran
    | _ => cases retried

-- What the attempts for some items come to, one item after the other up to the first for
-- which none succeeds: what was gained, what is left, and the mishap of the first of these.
inductive Course (action : ι → Disk → Except Mishap α × Disk) : List (ι × α) → List ι → Option Mishap → Disk → Disk → Prop
  | through (disk : Disk) : Course action [] [] none disk disk
  | stopped {item : ι} {rest : List ι} {mishap : Mishap} {before after : Disk}
      (tried : Tried (action item) before (.error mishap) after) : Course action [] (item :: rest) (some mishap) before after
  | step {item : ι} {value : α} {done : List (ι × α)} {left : List ι} {reason : Option Mishap} {before middle after : Disk}
      (tried : Tried (action item) before (.ok value) middle) (rest : Course action done left reason middle after) :
      Course action ((item, value) :: done) left reason before after

def attempts (action : Disk → Except Mishap α × Disk) (disk : Disk) : List (Except Mishap α) × Disk :=
  match action disk with
  | (.error (.disk fault), middle) =>
    let (result, last) := action middle
    ([.error (.disk fault), result], last)
  | (result, last) => ([result], last)

def Succeeds (results : List (Except Mishap α)) : Prop := ∃ value, .ok value ∈ results

def Fails (results : List (Except Mishap α)) (mishap : Mishap) : Prop :=
  ¬Succeeds results ∧ results.getLast? = some (.error mishap)

def gained? (results : List (Except Mishap α)) : Option α := results.getLast?.bind Except.toOption

theorem attempts_of_tried {action : Disk → Except Mishap α × Disk} (tried : Tried action before result after) :
    ∃ refused, attempts action before = (refused ++ [result], after) ∧
      ∀ earlier ∈ refused, ∃ fault, earlier = .error (.disk fault) := by
  cases tried with
  | once ran final =>
    refine ⟨[], ?_, by simp⟩
    unfold attempts
    rw [ran]
    split
    · rename_i fault middle same
      cases same
      exact absurd rfl (final fault)
    · rename_i same
      cases same
      rfl
  | @again fault middle refused ran =>
    refine ⟨[.error (.disk fault)], ?_, by simp⟩
    unfold attempts
    rw [refused]
    dsimp only
    rw [ran]
    rfl

theorem gained_of_tried {action : Disk → Except Mishap α × Disk} {value : α} (tried : Tried action before (.ok value) after) :
    ∃ results, attempts action before = (results, after) ∧ gained? results = some value ∧ Succeeds results := by
  obtain ⟨refused, same, -⟩ := attempts_of_tried tried
  refine ⟨_, same, ?_, value, List.mem_concat_self⟩
  rw [gained?, List.getLast?_concat]
  rfl

theorem fails_of_tried {action : Disk → Except Mishap α × Disk} {mishap : Mishap} (tried : Tried action before (.error mishap) after) :
    ∃ results, attempts action before = (results, after) ∧ gained? results = none ∧ Fails results mishap := by
  obtain ⟨refused, same, earlier⟩ := attempts_of_tried tried
  refine ⟨_, same, ?_, ?_, List.getLast?_concat⟩
  · rw [gained?, List.getLast?_concat]
    rfl
  · rintro ⟨value, member⟩
    rcases List.mem_append.mp member with member | member
    · obtain ⟨fault, refused⟩ := earlier _ member
      cases refused
    · cases List.mem_singleton.mp member

def tries (action : ι → Disk → Except Mishap α × Disk) : List ι → Disk → List (List (Except Mishap α)) × Disk
  | [], disk => ([], disk)
  | item :: rest, disk =>
    let (results, middle) := attempts (action item) disk
    match gained? results with
    | some _ =>
      let (more, last) := tries action rest middle
      (results :: more, last)
    | none => ([results], middle)

def AllSucceed {ι : Type} (items : List ι) (rows : List (List (Except Mishap α))) : Prop :=
  rows.length = items.length ∧ ∀ results ∈ rows, Succeeds results

theorem allSucceed_nil {ι : Type} : AllSucceed ([] : List ι) ([] : List (List (Except Mishap α))) := ⟨rfl, by simp⟩

theorem AllSucceed.cons {ι : Type} {item : ι} {items : List ι} {results : List (Except Mishap α)} {rows : List (List (Except Mishap α))}
    (all : AllSucceed items rows) (succeeds : Succeeds results) : AllSucceed (item :: items) (results :: rows) :=
  ⟨by rw [List.length_cons, List.length_cons, all.1], List.forall_mem_cons.mpr ⟨succeeds, all.2⟩⟩

theorem AllSucceed.of_length {ι κ : Type} {items : List ι} {others : List κ} {rows : List (List (Except Mishap α))}
    (all : AllSucceed items rows) (same : items.length = others.length) : AllSucceed others rows := ⟨all.1.trans same, all.2⟩

theorem Fails.not_allSucceed {ι : Type} {items : List ι} {ahead : List (List (Except Mishap α))} {results : List (Except Mishap α)}
    {mishap : Mishap} (fails : Fails results mishap) : ¬AllSucceed items (ahead ++ [results]) :=
  fun all => fails.1 (all.2 results List.mem_concat_self)

-- What the attempts show of a course.
inductive Shows (done : List (ι × α)) : Option Mishap → List (List (Except Mishap α)) → Prop
  | through {rows : List (List (Except Mishap α))} (succeed : AllSucceed (done.map Prod.fst) rows) : Shows done none rows
  | stopped {rows ahead : List (List (Except Mishap α))} {results : List (Except Mishap α)} {mishap : Mishap}
      (parts : rows = ahead ++ [results]) (succeed : AllSucceed (done.map Prod.fst) ahead) (fails : Fails results mishap) :
      Shows done (some mishap) rows

theorem tries_of_course {action : ι → Disk → Except Mishap α × Disk} {done : List (ι × α)} {left : List ι} {reason : Option Mishap}
    (course : Course action done left reason before after) : ∃ rows, tries action (done.map Prod.fst ++ left) before = (rows, after) ∧
      rows.filterMap gained? = done.map Prod.snd ∧ Shows done reason rows := by
  induction course with
  | through disk => exact ⟨[], rfl, rfl, .through allSucceed_nil⟩
  | @stopped item rest mishap before after tried =>
    obtain ⟨results, same, none, fails⟩ := fails_of_tried tried
    refine ⟨[results], ?_, by simp [none], .stopped (List.nil_append _).symm allSucceed_nil fails⟩
    rw [List.map_nil, List.nil_append, tries, same]
    dsimp only
    rw [none]
  | step tried rest ih =>
    obtain ⟨results, same, gained, succeeds⟩ := gained_of_tried tried
    obtain ⟨rows, more, values, shows⟩ := ih
    refine ⟨results :: rows, ?_, by simp [gained, values], ?_⟩
    · rw [List.map_cons, List.cons_append, tries, same]
      dsimp only
      rw [gained, more]
    · cases shows with
      | through succeed => exact .through (succeed.cons succeeds)
      | stopped parts succeed fails => exact .stopped (by rw [parts, List.cons_append]) (succeed.cons succeeds) fails

end ChangeCapture.Artifacts
