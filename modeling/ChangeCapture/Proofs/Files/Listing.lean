import ChangeCapture.Files.Disk
import ChangeCapture.Files.Layout
import ChangeCapture.Proofs.Files.Frame
import ChangeCapture.Proofs.Sorting

namespace ChangeCapture

namespace Tree

variable {tree before after : Tree} {location : Location} {path one : Path} {touched : List Location} {entry : Location × Item}

-- What a file system holds: each place once, under a name that it takes.
structure WellFormed (tree : Tree) : Prop where
  distinct : (tree.entries.map Prod.fst).Nodup
  named : ∀ entry ∈ tree.entries, entry.1.EndsWell

theorem mem_putIn {item : Item} {entries : List (Location × Item)} (member : entry ∈ putIn location item entries) :
    entry = (location, item) ∨ entry ∈ entries := by
  induction entries with
  | nil => exact .inl (List.mem_singleton.mp member)
  | cons first rest ih =>
    unfold putIn at member
    split at member
    · cases member with
      | head => exact .inl rfl
      | tail _ member => exact .inr (List.mem_cons_of_mem _ member)
    · cases member with
      | head => exact .inr (List.mem_cons_self ..)
      | tail _ member => exact (ih member).imp_right (List.mem_cons_of_mem _)

namespace WellFormed

theorem empty : Tree.empty.WellFormed := ⟨List.nodup_nil, by simp [Tree.empty]⟩

theorem put (wellFormed : tree.WellFormed) (endsWell : location.EndsWell) (item : Item) : (tree.put location item).WellFormed where
  distinct := by
    have kept : ∀ entries : List (Location × Item), (entries.map Prod.fst).Nodup →
        ((putIn location item entries).map Prod.fst).Nodup := by
      intro entries distinct
      induction entries with
      | nil => exact List.nodup_singleton _
      | cons first rest ih =>
        obtain ⟨apart, distinct⟩ := List.nodup_cons.mp distinct
        unfold putIn
        split
        · rename_i same
          exact List.nodup_cons.mpr ⟨same ▸ apart, distinct⟩
        · rename_i differ
          refine List.nodup_cons.mpr ⟨fun member => ?_, ih distinct⟩
          obtain ⟨entry, there, same⟩ := List.mem_map.mp member
          rcases mem_putIn there with rfl | old
          · exact differ same.symm
          · exact apart (List.mem_map.mpr ⟨entry, old, same⟩)
    exact kept _ wellFormed.distinct
  named entry member := by
    rcases mem_putIn member with rfl | old
    · exact endsWell
    · exact wellFormed.named entry old

theorem write {bytes : Bytes} (wellFormed : before.WellFormed) (plain : path.IsPlain) (written : before.write path bytes = .ok after) :
    after.WellFormed := by
  obtain ⟨_, -, written⟩ := bind_eq_ok_iff.mp written
  split at written
  · cases written
  · rename_i location located
    rw [locate_eq_place located] at written
    split at written
    · cases written
    · rename_i notDirectory
      cases written
      exact wellFormed.put (Location.endsWell_of_isReached (Location.isReached_place plain) (not_fixed_of_item? notDirectory)) _

theorem makeDirectory (wellFormed : before.WellFormed) (plain : path.IsPlain) (made : before.makeDirectory path = .ok after) :
    after.WellFormed := by
  obtain ⟨absent, rfl⟩ := makeDirectory_eq_ok made
  exact wellFormed.put (Location.endsWell_of_isReached (Location.isReached_place plain) (not_fixed_of_none absent)) _

end WellFormed

def listed? (tree : Tree) (path : Path) (location : Location) (entry : Location × Item) : Option Path :=
  match entry.1.getLast? with
  | some (.given name) =>
    if entry.1.dropLast = location ∧ tree.isFile (path.child name) = .ok true then some (path.child name) else none
  | _ => none

theorem listed?_eq_some_iff : listed? tree path location entry = some one ↔ ∃ name,
    entry.1 = location ++ [.given name] ∧ tree.isFile (path.child name) = .ok true ∧ path.child name = one := by
  unfold listed?
  constructor
  · intro found
    split at found
    · rename_i name last
      split at found
      · rename_i here
        refine ⟨name, ?_, here.2, Option.some.inj found⟩
        rw [← here.1, List.dropLast_append_getLast? _ last]
      · cases found
    · cases found
  · intro held
    obtain ⟨name, same, isFile, rfl⟩ := held
    rw [same, List.getLast?_concat]
    dsimp only
    rw [List.dropLast_concat, if_pos ⟨rfl, isFile⟩]

theorem filesIn_of_find (found : tree.find path = .ok (location, .directory)) :
    tree.filesIn path = tree.entries.filterMap (listed? tree path location) := by
  unfold filesIn namesIn
  rw [found]
  dsimp only
  rw [List.filterMap_filterMap]
  apply List.filterMap_congr
  intro entry _
  unfold listed?
  cases entry.1.getLast? with
  | none => rfl
  | some name =>
    by_cases here : entry.1.dropLast = location
    · cases name with
      | temporary => simp [here]
      | given name =>
        simp only [here, if_true, Option.bind_some, true_and]
        split
        · rename_i isFile
          rw [if_pos isFile]
        · rename_i noFile
          rw [if_neg noFile]
    · cases name <;> simp [here]

theorem walk_append (names more : List Text) : tree.walk location (names ++ more) =
    match tree.walk location names with
    | .ok place => tree.walk place more
    | .error cause => .error cause := by
  induction names generalizing location with
  | nil => rfl
  | cons name rest ih =>
    rw [List.cons_append, walk, walk]
    split
    · split
      · rfl
      · exact ih
    · rfl
    · rfl

theorem locate_child (found : tree.find path = .ok (location, .directory)) {name : Text} (proper : IsFileName name) :
    tree.locate (path.child name) =
      if (path.child name).isLong ∨ Path.isLongName name then .error .longName else .ok (location ++ [.given name]) := by
  obtain ⟨located, there⟩ := find_eq_ok_iff.mp found
  unfold locate at located ⊢
  split at located
  · cases located
  · have same : (path.child name).isAbsolute = path.isAbsolute ∧ (path.child name).names = path.names ++ [name] := by
      rw [Path.child_of_isFileName proper]
      exact ⟨rfl, rfl⟩
    by_cases long : (path.child name).isLong
    · rw [if_pos long, if_pos (.inl long)]
    · rw [if_neg long, same.1, same.2, walk_append, located]
      simp only [walk, there, long, Bool.false_eq_true, false_or, Location.child, if_neg proper.named.2]

theorem filterMap_listed? (found : before.find path = .ok (location, .directory))
    (free : ∀ name, location ++ [.given name] ∉ touched) (tree : Tree) :
    tree.entries.filterMap (listed? tree path location) = (tree.rest touched).filterMap (listed? tree path location) := by
  have given : location.isGiven := locate_eq_place (find_eq_ok_iff.mp found).1 ▸ path.isGiven_place
  unfold rest
  rw [List.filterMap_filter]
  refine List.filterMap_congr fun entry _ => ?_
  cases listed : listed? tree path location entry with
  | none => simp
  | some one =>
    obtain ⟨name, same, -⟩ := listed?_eq_some_iff.mp listed
    have apart : IsApart touched entry.1 := by
      rw [same]
      refine ⟨?_, free name⟩
      rw [Location.isGiven, List.all_append, Bool.and_eq_true]
      exact ⟨given, rfl⟩
    simp [apart]

theorem listed?_of_absent (found : before.find path = .ok (location, .directory)) {entry : Location × Item}
    (endsWell : entry.1.EndsWell) (absent : before.item? entry.1 = none) : listed? before path location entry = none := by
  refine Option.eq_none_iff_forall_ne_some.mpr fun one listed => ?_
  obtain ⟨name, here, isFile, -⟩ := listed?_eq_some_iff.mp listed
  rw [here] at endsWell absent
  have proper := endsWell name List.getLast?_concat
  obtain ⟨-, last, bytes, there⟩ := isFile_eq_ok_iff.mp isFile
  obtain ⟨located, held⟩ := find_eq_ok_iff.mp there
  rw [locate_eq_place located, Path.place_child proper, ← locate_eq_place (find_eq_ok_iff.mp found).1, absent] at held
  cases held

namespace Within

theorem isFile_child (within : Within touched before after) (found : before.find path = .ok (location, .directory)) {name : Text}
    (proper : IsFileName name) (apart : location ++ [.given name] ∉ touched) :
    after.isFile (path.child name) = .ok true ↔ before.isFile (path.child name) = .ok true := by
  obtain ⟨located, there⟩ := find_eq_ok_iff.mp found
  have place : (path.child name).place = location ++ [.given name] := by
    rw [Path.place_child proper, locate_eq_place located]
  have given : Location.isGiven (location ++ [.given name]) := place ▸ Path.isGiven_place _
  constructor
  · intro isFile
    obtain ⟨checked, last, bytes, later⟩ := isFile_eq_ok_iff.mp isFile
    obtain ⟨again, held⟩ := find_eq_ok_iff.mp later
    have same := locate_eq_place again
    rw [place] at same
    subst same
    rw [locate_child (within.find (.inr rfl) found) proper] at again
    refine isFile_eq_ok_iff.mpr ⟨checked, _, bytes, find_eq_ok_iff.mpr ⟨?_, within.item?_of_file ⟨given, apart⟩ held⟩⟩
    rw [locate_child found proper]
    exact again
  · exact within.isFile (place ▸ apart)

theorem listed?_of_endsWell (within : Within touched before after) (found : before.find path = .ok (location, .directory))
    (free : ∀ name, location ++ [.given name] ∉ touched) {entry : Location × Item} (endsWell : entry.1.EndsWell) :
    listed? after path location entry = listed? before path location entry := by
  refine Option.ext fun one => ?_
  rw [listed?_eq_some_iff, listed?_eq_some_iff]
  refine exists_congr fun name => and_congr_right fun here => and_congr_left fun _ => ?_
  rw [here] at endsWell
  exact within.isFile_child found (endsWell name List.getLast?_concat) (free name)

theorem filesIn (within : Within touched before after) (wellFormed : before.WellFormed)
    (found : before.find path = .ok (location, .directory)) (free : ∀ name, location ++ [.given name] ∉ touched) :
    after.filesIn path = before.filesIn path := by
  obtain ⟨made, same, new⟩ := within.entries
  have kept : (before.rest touched).filterMap (listed? after path location) =
      (before.rest touched).filterMap (listed? before path location) := List.filterMap_congr fun entry member =>
    within.listed?_of_endsWell found free (wellFormed.named entry (List.mem_filter.mp member).1)
  have unlisted : (made.map (·, Item.directory)).filterMap (listed? after path location) = [] := by
    refine List.filterMap_eq_nil_iff.mpr fun entry member => ?_
    obtain ⟨place, present, rfl⟩ := List.mem_map.mp member
    obtain ⟨absent, endsWell⟩ := new place present
    rw [within.listed?_of_endsWell found free endsWell]
    exact listed?_of_absent found endsWell absent
  rw [filesIn_of_find (within.find (.inr rfl) found), filesIn_of_find found, filterMap_listed? found free,
    filterMap_listed? found free, same, List.filterMap_append, unlisted, List.append_nil, kept]

end Within

end Tree

namespace Site

-- Paths that lead to different files: two that lead to one are the same.
def TellsApart (site : Site) (paths : List Path) : Prop :=
  ∀ one ∈ paths, ∀ other ∈ paths, site.resolve one = site.resolve other → one = other

instance (site : Site) : DecidablePred site.TellsApart := fun paths =>
  inferInstanceAs (Decidable (∀ one ∈ paths, ∀ other ∈ paths, site.resolve one = site.resolve other → one = other))

theorem TellsApart.mono {site : Site} {paths more : List Path} (apart : site.TellsApart more) (sub : paths ⊆ more) :
    site.TellsApart paths := fun one first other second => apart one (sub first) other (sub second)

theorem resolve_child {site : Site} {path : Path} {name : Text} (proper : IsFileName name)
    (unlinked : ∀ link ∈ site.links, link.1 ≠ ⟨(site.resolve path).slashes, (site.resolve path).names ++ [name]⟩) :
    site.resolve (path.child name) = ⟨(site.resolve path).slashes, (site.resolve path).names ++ [name]⟩ := by
  have stepped : site.resolve (path.child name) = site.follow (site.resolve path) name := by
    rw [Path.child_of_isFileName proper]
    unfold resolve
    exact List.foldl_append ..
  have absent : site.links.lookup ⟨(site.resolve path).slashes, (site.resolve path).names ++ [name]⟩ = none :=
    List.lookup_eq_none_iff.mpr fun link member => by simpa using (unlinked link member).symm
  rw [stepped, follow, if_neg proper.named.2]
  dsimp only
  rw [absent]
  rfl

end Site

namespace Layout

variable {layout : Layout} {before after : Tree} {paths : List Path} {touched : List Location}

theorem isPlain_ofTexts (root specs registry flow : Option Text) :
    (ofTexts root specs registry flow).registry.IsPlain ∧ (ofTexts root specs registry flow).flow.IsPlain := by
  have each : ∀ (given : Option Path) (below : Text), (∀ path ∈ given, path.IsPlain) →
      (given.getD ((Path.ofText (root.getD ".")).child below)).IsPlain := by
    intro given below plain
    cases given with
    | none => exact Path.isPlain_child (Path.isPlain_ofText _) below
    | some path => exact plain path rfl
  constructor
  · apply each
    intro path member
    rcases registry with - | - | ⟨c, rest⟩ <;> cases member
    exact Path.isPlain_ofText _
  · apply each
    intro path member
    rcases flow with - | - | ⟨c, rest⟩ <;> cases member
    exact Path.isPlain_ofText _

def ListsApart (layout : Layout) (touched : List Location) : Prop := ∀ name, layout.specs.place ++ [.given name] ∉ touched

section Listed

variable {tree : Tree} {path : Path} {site : Site}

theorem specPaths_eq_ok (listed : layout.specPaths tree = .ok paths) (present : paths ≠ []) : ∃ location,
    tree.find layout.specs = .ok (location, .directory) ∧ paths = Sorting.sort Path.le
      ((tree.entries.filterMap (Tree.listed? tree layout.specs location)).filter fun path => specSuffixes.contains path.suffix) := by
  unfold specPaths at listed
  obtain ⟨isDirectory, looked, listed⟩ := bind_eq_ok_iff.mp listed
  split at listed
  · rename_i there
    subst there
    obtain ⟨-, location, found⟩ := Tree.isDirectory_eq_ok_iff.mp looked
    rw [Tree.filesIn_of_find found] at listed
    cases listed
    exact ⟨location, found, rfl⟩
  · cases listed
    exact absurd rfl present

theorem name_of_specPath (wellFormed : tree.WellFormed) (listed : layout.specPaths tree = .ok paths) (member : path ∈ paths) :
    ∃ name, IsFileName name ∧ path = layout.specs.child name := by
  obtain ⟨location, -, rfl⟩ := specPaths_eq_ok listed (List.ne_nil_of_mem member)
  obtain ⟨entry, here, found⟩ := List.mem_filterMap.mp (List.mem_filter.mp (Sorting.mem_sort.mp member)).1
  obtain ⟨name, same, -, rfl⟩ := Tree.listed?_eq_some_iff.mp found
  have endsWell := wellFormed.named entry here
  rw [same] at endsWell
  exact ⟨name, endsWell name List.getLast?_concat, rfl⟩

-- Only a link among the specifications could stand for another one of them.
theorem tellsApart_of_specPaths (unlinked : ∀ link ∈ site.links, link.1.parent ≠ site.resolve layout.specs)
    (wellFormed : tree.WellFormed) (listed : layout.specPaths tree = .ok paths) : site.TellsApart paths := by
  have resolved : ∀ {name : Text}, IsFileName name → site.resolve (layout.specs.child name) =
      ⟨(site.resolve layout.specs).slashes, (site.resolve layout.specs).names ++ [name]⟩ := by
    intro name proper
    refine Site.resolve_child proper fun link member same => unlinked link member ?_
    rw [same, Path.parent, List.dropLast_concat]
  intro one first other second same
  obtain ⟨name, proper, rfl⟩ := name_of_specPath wellFormed listed first
  obtain ⟨name', proper', rfl⟩ := name_of_specPath wellFormed listed second
  rw [resolved proper, resolved proper', Path.mk.injEq] at same
  have equal : name = name' := by simpa using same.2
  rw [equal]

example : ¬Site.TellsApart ⟨"/", [(⟨1, ["specs", "zz.yaml"]⟩, ⟨1, ["specs", "orders.yaml"]⟩)]⟩
    [⟨0, ["specs", "orders.yaml"]⟩, ⟨0, ["specs", "zz.yaml"]⟩] := by decide

end Listed

end Layout

end ChangeCapture
