import ChangeCapture.Proofs.Files.Path

namespace ChangeCapture.Tree

variable {tree before middle after : Tree} {location place : Location} {item : Item} {bytes : Bytes} {path : Path}
  {touched wider : List Location} {names : List Text}

def held? (tree : Tree) (path : Path) : Option Bytes :=
  match tree.item? path.place with
  | some (.file bytes) => some bytes
  | _ => none

theorem held?_eq_some_iff : tree.held? path = some bytes ↔ tree.item? path.place = some (.file bytes) := by
  unfold held?
  split
  · rename_i found there
    simp [there]
  · rename_i none
    constructor
    · intro held
      cases held
    · exact fun there => absurd there (none bytes)

theorem held?_of_read (found : tree.read path = .ok bytes) : tree.held? path = some bytes := by
  obtain ⟨location, there⟩ := read_eq_ok_iff.mp found
  obtain ⟨located, there⟩ := find_eq_ok_iff.mp there
  rw [locate_eq_place located] at there
  exact held?_eq_some_iff.mpr there

def IsApart (touched : List Location) (location : Location) : Prop := location.isGiven ∧ location ∉ touched

instance (touched : List Location) : DecidablePred (IsApart touched) := fun _ => inferInstanceAs (Decidable (_ ∧ _))

def rest (touched : List Location) (tree : Tree) : List (Location × Item) :=
  tree.entries.filter fun entry => IsApart touched entry.1

-- What work on the touched places may do to a tree: beside these and temporary files
-- it may only make directories where nothing stood, and it takes no directory away.
structure Within (touched : List Location) (before after : Tree) : Prop where
  entries : ∃ made : List Location, after.rest touched = before.rest touched ++ made.map (·, Item.directory) ∧
    ∀ location ∈ made, before.item? location = none ∧ location.EndsWell
  directories : ∀ location, location.isGiven → before.item? location = some .directory →
    after.item? location = some .directory

theorem lookup_rest (apart : IsApart touched location) (tree : Tree) :
    (tree.rest touched).lookup location = tree.entries.lookup location := by
  unfold rest
  induction tree.entries with
  | nil => rfl
  | cons entry rest ih =>
    rcases entry with ⟨first, item⟩
    by_cases kept : IsApart touched first
    · rw [List.filter_cons_of_pos (by simpa using kept), List.lookup_cons, List.lookup_cons, ih]
    · have differ : (location == first) = false := by
        rw [beq_eq_false_iff_ne]
        exact fun same => kept (same ▸ apart)
      rw [List.filter_cons_of_neg (by simpa using kept), ih, List.lookup_cons, differ]

theorem not_fixed_of_none (absent : tree.item? location = none) : ¬location.isFixed := by
  intro fixed
  rw [item?_of_fixed fixed] at absent
  cases absent

theorem makeDirectory_eq_ok {after : Tree} (succeeds : tree.makeDirectory path = .ok after) :
    tree.item? path.place = none ∧ after = tree.put path.place .directory := by
  unfold makeDirectory at succeeds
  split at succeeds
  · cases succeeds
  · rename_i place located
    rw [← locate_eq_place located]
    split at succeeds
    · cases succeeds
    · rename_i absent
      cases succeeds
      exact ⟨absent, rfl⟩

theorem lookup_made {made : List Location} (member : location ∈ made) :
    (made.map (·, Item.directory)).lookup location = some .directory := by
  induction made with
  | nil => cases member
  | cons first rest ih =>
    rw [List.map_cons, List.lookup_cons]
    split
    · rfl
    · rename_i differ
      rcases List.mem_cons.mp member with rfl | member
      · simp at differ
      · exact ih member

namespace Within

theorem refl (touched : List Location) (tree : Tree) : Within touched tree tree := ⟨⟨[], by simp⟩, fun _ _ there => there⟩

theorem item?_of_some (within : Within touched before after) (apart : IsApart touched location)
    (there : before.item? location = some item) : after.item? location = some item := by
  by_cases fixed : location.isFixed
  · rw [item?_of_fixed fixed] at there ⊢
    exact there
  · obtain ⟨made, same, -⟩ := within.entries
    rw [item?_of_not_fixed fixed] at there ⊢
    rw [← lookup_rest apart, same, List.lookup_append, lookup_rest apart, there]
    rfl

-- Nothing but a directory can have come to a place that is not touched.
theorem item?_of_file (within : Within touched before after) (apart : IsApart touched location)
    (there : after.item? location = some (.file bytes)) : before.item? location = some (.file bytes) := by
  have free := not_fixed_of_item? (by rw [there]; simp)
  obtain ⟨made, same, new⟩ := within.entries
  rw [item?_of_not_fixed free] at there ⊢
  rw [← lookup_rest apart, same, List.lookup_append, lookup_rest apart] at there
  cases found : before.entries.lookup location with
  | some item =>
    rw [found] at there
    exact there
  | none =>
    rw [found, Option.none_or] at there
    have member := List.mem_map_of_mem (f := Prod.fst) (mem_of_lookup there)
    rw [List.map_map] at member
    have listed : location ∈ made := by simpa using member
    rw [lookup_made listed] at there
    cases there

theorem trans (first : Within touched before middle) (second : Within touched middle after) : Within touched before after := by
  obtain ⟨made, same, new⟩ := first.entries
  obtain ⟨more, again, newer⟩ := second.entries
  refine ⟨⟨made ++ more, by rw [again, same, List.map_append, List.append_assoc], fun location member => ?_⟩,
    fun location given there => second.directories location given (first.directories location given there)⟩
  rcases List.mem_append.mp member with member | member
  · exact new location member
  · obtain ⟨absent, endsWell⟩ := newer location member
    have listed : (location, Item.directory) ∈ after.rest touched := by
      rw [again]
      exact List.mem_append_right _ (List.mem_map_of_mem member)
    have apart : IsApart touched location := by simpa using (List.mem_filter.mp listed).2
    refine ⟨?_, endsWell⟩
    cases there : before.item? location with
    | none => rfl
    | some item =>
      rw [first.item?_of_some apart there] at absent
      cases absent

theorem mono (within : Within touched before after) (sub : touched ⊆ wider) : Within wider before after := by
  have narrowed : ∀ tree : Tree, tree.rest wider = (tree.rest touched).filter fun entry => IsApart wider entry.1 := by
    intro tree
    unfold rest
    rw [List.filter_filter]
    apply List.filter_congr
    intro entry _
    have implied : IsApart wider entry.1 → IsApart touched entry.1 := fun apart => ⟨apart.1, fun member => apart.2 (sub member)⟩
    by_cases apart : IsApart wider entry.1
    · simp [apart, implied apart]
    · simp [apart]
  obtain ⟨made, same, new⟩ := within.entries
  refine ⟨⟨made.filter fun location => IsApart wider location, ?_, fun location member => new location (List.mem_filter.mp member).1⟩,
    within.directories⟩
  rw [narrowed, narrowed, same, List.filter_append, List.filter_map]
  rfl

end Within

theorem filter_putIn (not : ¬IsApart touched location) (item : Item) (entries : List (Location × Item)) :
    (putIn location item entries).filter (fun entry => IsApart touched entry.1) =
      entries.filter fun entry => IsApart touched entry.1 := by
  induction entries with
  | nil => simp [putIn, not]
  | cons entry rest ih =>
    rcases entry with ⟨first, old⟩
    by_cases taken : first = location
    · subst taken
      simp [putIn, not]
    · simp [putIn, taken, List.filter_cons, ih]

theorem putIn_of_new (item : Item) {entries : List (Location × Item)} (new : entries.lookup location = none) :
    putIn location item entries = entries ++ [(location, item)] := by
  induction entries with
  | nil => rfl
  | cons entry rest ih =>
    rcases entry with ⟨first, old⟩
    rw [List.lookup_cons] at new
    split at new
    · cases new
    · rename_i differ
      have apart : first ≠ location := by
        intro same
        subst same
        simp at differ
      rw [putIn, if_neg apart, ih new, List.cons_append]

theorem within_makeDirectory (absent : tree.item? location = none) (endsWell : location.EndsWell) :
    Within touched tree (tree.put location .directory) := by
  have free := not_fixed_of_none absent
  have new := absent
  rw [item?_of_not_fixed free] at new
  have entries : (tree.put location .directory).entries = tree.entries ++ [(location, .directory)] := putIn_of_new _ new
  constructor
  · by_cases apart : IsApart touched location
    · refine ⟨[location], ?_, ?_⟩
      · unfold rest
        rw [entries, List.filter_append]
        simp [apart]
      · intro other member
        rw [List.mem_singleton.mp member]
        exact ⟨absent, endsWell⟩
    · refine ⟨[], ?_, fun other member => absurd member List.not_mem_nil⟩
      unfold rest
      rw [entries, List.filter_append]
      simp [apart]
  · intro other given there
    by_cases same : other = location
    · rw [same]
      exact item?_put free
    · rw [item?_put_of_ne same]
      exact there

theorem within_put (not : ¬IsApart touched location) (replaced : location.isGiven → tree.item? location ≠ some .directory) :
    Within touched tree (tree.put location item) := by
  constructor
  · refine ⟨[], ?_, fun other member => absurd member List.not_mem_nil⟩
    rw [List.map_nil, List.append_nil]
    exact filter_putIn not item tree.entries
  · intro other given there
    have apart : other ≠ location := by
      intro same
      subst same
      exact replaced given there
    rw [item?_put_of_ne apart]
    exact there

theorem within_erase (temporary : ¬location.isGiven) : Within touched tree (tree.erase location) := by
  constructor
  · refine ⟨[], ?_, fun other member => absurd member List.not_mem_nil⟩
    rw [List.map_nil, List.append_nil]
    unfold rest erase
    rw [List.filter_filter]
    apply List.filter_congr
    intro entry _
    by_cases gone : entry.1 = location
    · simp [IsApart, gone, temporary]
    · simp [gone]
  · intro other given there
    have apart : other ≠ location := by
      intro same
      subst same
      exact temporary given
    rw [item?_erase_of_ne apart]
    exact there

namespace Within

theorem walk (within : Within touched before after) (given : location.isGiven) (walked : before.walk location names = .ok place) :
    after.walk location names = .ok place := by
  induction names generalizing location with
  | nil => exact walked
  | cons name rest ih =>
    unfold Tree.walk at walked
    split at walked
    · rename_i there
      split at walked
      · cases walked
      · rename_i short
        unfold Tree.walk
        rw [within.directories location given there]
        dsimp only
        rw [if_neg short]
        exact ih (Location.isGiven_child given) walked
    · cases walked
    · cases walked

theorem locate (within : Within touched before after) (located : before.locate path = .ok location) :
    after.locate path = .ok location := by
  unfold Tree.locate at located ⊢
  split at located
  · cases located
  · rename_i short
    rw [if_neg short]
    exact within.walk path.isGiven_start located

theorem find (within : Within touched before after) (apart : path.place ∉ touched ∨ item = .directory)
    (found : before.find path = .ok (location, item)) : after.find path = .ok (location, item) := by
  obtain ⟨located, there⟩ := find_eq_ok_iff.mp found
  have given : location.isGiven := locate_eq_place located ▸ path.isGiven_place
  refine find_eq_ok_iff.mpr ⟨within.locate located, ?_⟩
  rcases apart with apart | rfl
  · exact within.item?_of_some ⟨given, locate_eq_place located ▸ apart⟩ there
  · exact within.directories location given there

theorem isFile (within : Within touched before after) (apart : path.place ∉ touched) (found : before.isFile path = .ok true) :
    after.isFile path = .ok true := by
  obtain ⟨checked, location, bytes, there⟩ := isFile_eq_ok_iff.mp found
  exact isFile_eq_ok_iff.mpr ⟨checked, location, bytes, within.find (.inl apart) there⟩

theorem read (within : Within touched before after) (apart : path.place ∉ touched) (found : before.read path = .ok bytes) :
    after.read path = .ok bytes := by
  obtain ⟨location, there⟩ := read_eq_ok_iff.mp found
  exact read_eq_ok_iff.mpr ⟨location, within.find (.inl apart) there⟩

theorem held? (within : Within touched before after) (apart : path.place ∉ touched) : after.held? path = before.held? path := by
  have free : IsApart touched path.place := ⟨path.isGiven_place, apart⟩
  apply Option.ext
  intro bytes
  rw [held?_eq_some_iff, held?_eq_some_iff]
  exact ⟨within.item?_of_file free, within.item?_of_some free⟩

theorem isDirectory (within : Within touched before after) (found : before.isDirectory path = .ok true) :
    after.isDirectory path = .ok true := by
  obtain ⟨checked, location, there⟩ := isDirectory_eq_ok_iff.mp found
  exact isDirectory_eq_ok_iff.mpr ⟨checked, location, within.find (.inr rfl) there⟩

end Within

end ChangeCapture.Tree
