import ChangeCapture.Files.Tree
import ChangeCapture.Proofs.Json.Fields
import ChangeCapture.Proofs.Outcome

namespace ChangeCapture

-- The names that a path can spell; temporary files have others.
def Name.isGiven : Name → Bool
  | .given _ => true
  | .temporary _ _ => false

namespace Location

variable {location : Location} {name : Text}

def isGiven (location : Location) : Bool := location.all Name.isGiven

-- The places that are directories whatever a tree holds.
def isFixed (location : Location) : Bool := location.isAbove || location = [Name.root]

theorem isGiven_child (given : location.isGiven) : (location.child name).isGiven := by
  have dropped : Location.isGiven location.dropLast := by
    rw [isGiven, List.all_eq_true] at given ⊢
    exact fun name member => given name ((List.dropLast_sublist location).subset member)
  have up : Location.isGiven (location ++ [Name.up]) := by
    rw [isGiven, List.all_append, Bool.and_eq_true]
    exact ⟨given, rfl⟩
  unfold child parent
  split
  · split
    · exact up
    · split
      · exact given
      · exact dropped
  · rw [isGiven, List.all_append, Bool.and_eq_true]
    exact ⟨given, rfl⟩

end Location

namespace Path

def Overlong (path : Path) : Prop := path.isLong ∨ ∃ name ∈ path.names, isLongName name

instance : DecidablePred Overlong := fun _ => inferInstanceAs (Decidable (_ ∨ _))

def start (path : Path) : Location := if path.isAbsolute then [Name.root] else []

-- The place that a path names, whether or not anything is there.
def place (path : Path) : Location := path.names.foldl Location.child path.start

theorem isGiven_start (path : Path) : path.start.isGiven := by
  unfold start
  split <;> rfl

theorem isGiven_place (path : Path) : path.place.isGiven := by
  have kept : ∀ (names : List Text) (location : Location), location.isGiven → (names.foldl Location.child location).isGiven := by
    intro names
    induction names with
    | nil => exact fun location given => given
    | cons name rest ih => exact fun location given => ih _ (Location.isGiven_child given)
  exact kept _ _ path.isGiven_start

end Path

namespace Tree

variable {tree before middle after : Tree} {location other place : Location} {item : Item} {bytes : Bytes} {path : Path}
  {touched : List Location} {names : List Text}

theorem item?_of_fixed (fixed : location.isFixed) : tree.item? location = some .directory := if_pos fixed

theorem item?_of_not_fixed (free : ¬location.isFixed) : tree.item? location = tree.entries.lookup location := if_neg free

theorem not_fixed_of_item? (there : tree.item? location ≠ some .directory) : ¬location.isFixed :=
  fun fixed => there (item?_of_fixed fixed)

theorem lookup_putIn (location : Location) (item : Item) (entries : List (Location × Item)) (other : Location) :
    (putIn location item entries).lookup other = if other = location then some item else entries.lookup other := by
  induction entries with
  | nil =>
    by_cases same : other = location
    · simp [putIn, same]
    · have apart : (other == location) = false := by simpa using same
      simp [putIn, List.lookup_cons, apart, same]
  | cons entry rest ih =>
    rcases entry with ⟨first, old⟩
    by_cases taken : first = location
    · subst taken
      by_cases same : other = first
      · simp [putIn, same]
      · have apart : (other == first) = false := by simpa using same
        simp [putIn, List.lookup_cons, apart, same]
    · rw [putIn, if_neg taken, List.lookup_cons, List.lookup_cons, ih]
      split
      · rename_i same
        rw [beq_iff_eq] at same
        rw [if_neg (same ▸ taken)]
      · rfl

theorem item?_put (free : ¬location.isFixed) : (tree.put location item).item? location = some item := by
  rw [item?_of_not_fixed free]
  exact (lookup_putIn location item tree.entries location).trans (if_pos rfl)

theorem item?_put_of_ne (apart : other ≠ location) : (tree.put location item).item? other = tree.item? other := by
  have same : (tree.put location item).entries.lookup other = tree.entries.lookup other :=
    (lookup_putIn location item tree.entries other).trans (if_neg apart)
  unfold item?
  rw [same]

theorem item?_erase (free : ¬location.isFixed) : (tree.erase location).item? location = none := by
  rw [item?_of_not_fixed free, List.lookup_eq_none_iff]
  intro entry member
  have kept := (List.mem_filter.mp member).2
  rw [decide_eq_true_eq] at kept
  simpa using fun same : location = entry.1 => kept same.symm

theorem item?_erase_of_ne (apart : other ≠ location) : (tree.erase location).item? other = tree.item? other := by
  have same : (tree.erase location).entries.lookup other = tree.entries.lookup other := by
    unfold erase
    dsimp only
    induction tree.entries with
    | nil => rfl
    | cons entry rest ih =>
      rcases entry with ⟨first, old⟩
      by_cases gone : first = location
      · have differ : (other == first) = false := by simpa [gone] using apart
        rw [List.filter_cons_of_neg (by simp [gone]), ih, List.lookup_cons, differ]
      · rw [List.filter_cons_of_pos (by simp [gone]), List.lookup_cons, List.lookup_cons, ih]
  unfold item?
  rw [same]

theorem walk_eq_place (walked : tree.walk location names = .ok place) : place = names.foldl Location.child location := by
  induction names generalizing location with
  | nil =>
    cases walked
    rfl
  | cons name rest ih =>
    unfold walk at walked
    split at walked
    · split at walked
      · cases walked
      · exact ih walked
    · cases walked
    · cases walked

theorem locate_eq_place (located : tree.locate path = .ok location) : location = path.place := by
  unfold locate at located
  split at located
  · cases located
  · exact walk_eq_place located

theorem overlong_of_walk (walked : tree.walk location names = .error .longName) : ∃ name ∈ names, Path.isLongName name := by
  induction names generalizing location with
  | nil => cases walked
  | cons name rest ih =>
    unfold walk at walked
    split at walked
    · split at walked
      · rename_i long
        exact ⟨name, List.mem_cons_self .., long⟩
      · obtain ⟨other, listed, long⟩ := ih walked
        exact ⟨other, List.mem_cons_of_mem _ listed, long⟩
    · cases walked
    · cases walked

theorem overlong_of_find (found : tree.find path = .error .longName) : path.Overlong := by
  unfold find at found
  split at found
  · rename_i cause located
    cases found
    unfold locate at located
    split at located
    · rename_i long
      exact .inl long
    · exact .inr (overlong_of_walk located)
  · split at found
    · cases found
    · cases found

theorem find_eq_ok_iff : tree.find path = .ok (location, item) ↔
    tree.locate path = .ok location ∧ tree.item? location = some item := by
  unfold find
  constructor
  · intro found
    split at found
    · cases found
    · rename_i place located
      split at found
      · rename_i there same
        cases found
        exact ⟨located, same⟩
      · cases found
  · intro held
    obtain ⟨located, same⟩ := held
    rw [located]
    dsimp only
    rw [same]

theorem look_eq_ok_iff : tree.look path = .ok (some item) ↔
    path.check = .ok () ∧ ∃ location, tree.find path = .ok (location, item) := by
  unfold look
  cases checked : path.check with
  | error mishap => simp
  | ok _ =>
    cases found : tree.find path with
    | error cause => cases cause <;> simp
    | ok there => simp [Prod.ext_iff]

theorem isFile_eq_ok_iff : tree.isFile path = .ok true ↔
    path.check = .ok () ∧ ∃ location bytes, tree.find path = .ok (location, .file bytes) := by
  rw [isFile, map_eq_ok_iff]
  constructor
  · intro held
    obtain ⟨found, looked, isFile⟩ := held
    split at isFile
    · rename_i bytes
      obtain ⟨checked, location, there⟩ := look_eq_ok_iff.mp looked
      exact ⟨checked, location, bytes, there⟩
    · cases isFile
  · intro held
    obtain ⟨checked, location, bytes, there⟩ := held
    exact ⟨_, look_eq_ok_iff.mpr ⟨checked, location, there⟩, rfl⟩

theorem isFile_eq_error_iff {fault : DiskFault} : tree.isFile path = .error fault ↔
    path.check = .ok () ∧ tree.find path = .error .longName ∧ fault = faultAt path .longName := by
  unfold isFile look
  cases path.check with
  | error mishap => simp [Except.map]
  | ok _ =>
    cases tree.find path with
    | ok there => simp [Except.map]
    | error cause => cases cause <;> simp [Except.map, eq_comm]

theorem isDirectory_eq_ok_iff : tree.isDirectory path = .ok true ↔
    path.check = .ok () ∧ ∃ location, tree.find path = .ok (location, .directory) := by
  rw [isDirectory, map_eq_ok_iff]
  constructor
  · intro held
    obtain ⟨found, looked, same⟩ := held
    rw [decide_eq_true_eq] at same
    exact look_eq_ok_iff.mp (same ▸ looked)
  · intro held
    obtain ⟨checked, location, there⟩ := held
    exact ⟨_, look_eq_ok_iff.mpr ⟨checked, location, there⟩, rfl⟩

theorem read_eq_ok_iff : tree.read path = .ok bytes ↔ ∃ location, tree.find path = .ok (location, .file bytes) := by
  unfold read
  split <;> simp_all

end Tree

end ChangeCapture
