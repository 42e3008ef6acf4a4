import ChangeCapture.Proofs.Files.Tree

namespace ChangeCapture

-- What a file system takes as the name of an entry.
structure IsFileName (name : Text) : Prop where
  present : name ≠ []
  named : name ≠ Text.ofString "." ∧ name ≠ Text.ofString ".."
  whole : Path.separator ∉ name

instance : DecidablePred IsFileName := fun name =>
  decidable_of_iff (name ≠ [] ∧ (name ≠ Text.ofString "." ∧ name ≠ Text.ofString "..") ∧ Path.separator ∉ name)
    ⟨fun all => ⟨all.1, all.2.1, all.2.2⟩, fun proper => ⟨proper.present, proper.named, proper.whole⟩⟩

namespace Text

variable {text piece : Text} {separator : CodePoint}

theorem splitOn_of_not_mem (whole : separator ∉ text) : splitOn separator text = [text] := by
  induction text with
  | nil => rfl
  | cons c rest ih =>
    rw [List.mem_cons, not_or] at whole
    rw [splitOn, if_neg fun same => whole.1 same.symm, ih whole.2]

theorem not_mem_of_splitOn (member : piece ∈ splitOn separator text) : separator ∉ piece := by
  induction text generalizing piece with
  | nil =>
    rw [splitOn, List.mem_singleton] at member
    simp [member]
  | cons c rest ih =>
    unfold splitOn at member
    split at member
    · rcases List.mem_cons.mp member with rfl | member
      · exact List.not_mem_nil
      · exact ih member
    · rename_i differ
      have longer : ∀ piece, separator ∉ piece → separator ∉ c :: piece := by
        intro piece none
        rw [List.mem_cons, not_or]
        exact ⟨fun same => differ same.symm, none⟩
      split at member
      · rename_i first pieces same
        rcases List.mem_cons.mp member with rfl | member
        · exact longer _ (ih (same ▸ List.mem_cons_self ..))
        · exact ih (same ▸ List.mem_cons_of_mem _ member)
      · rw [List.mem_singleton.mp member]
        exact longer _ List.not_mem_nil

theorem mem_joined {separator : Text} {parts : List Text} {c : CodePoint} (member : c ∈ joined separator parts) :
    c ∈ separator ∨ ∃ part ∈ parts, c ∈ part := by
  induction parts with
  | nil => cases member
  | cons first rest ih =>
    cases rest with
    | nil => exact .inr ⟨first, List.mem_cons_self .., member⟩
    | cons second rest =>
      rw [joined, List.mem_append, List.mem_append] at member
      rcases member with (inFirst | inSeparator) | later
      · exact .inr ⟨first, List.mem_cons_self .., inFirst⟩
      · exact .inl inSeparator
      · exact (ih later).imp_right fun found => found.imp fun part held => ⟨List.mem_cons_of_mem _ held.1, held.2⟩
      · simp

theorem mem_joined_of_mem {separator part : Text} {parts : List Text} {c : CodePoint} (listed : part ∈ parts) (member : c ∈ part) :
    c ∈ joined separator parts := by
  induction parts with
  | nil => cases listed
  | cons first rest ih =>
    cases rest with
    | nil => exact List.mem_singleton.mp listed ▸ member
    | cons second rest =>
      rw [joined, List.mem_append, List.mem_append]
      · rcases List.mem_cons.mp listed with rfl | later
        · exact .inl (.inl member)
        · exact .inr (ih later)
      · simp

end Text

namespace Path

variable {path other : Path} {name text : Text} {c : CodePoint}

def IsPlain (path : Path) : Prop := ∀ name ∈ path.names, IsFileName name ∨ name = Text.ofString ".."

instance : DecidablePred IsPlain := fun path =>
  inferInstanceAs (Decidable (∀ name ∈ path.names, IsFileName name ∨ name = Text.ofString ".."))

theorem isPlain_ofText (text : Text) : (ofText text).IsPlain := by
  intro name member
  obtain ⟨piece, kept⟩ := List.mem_filter.mp member
  simp only [Bool.and_eq_true, Bool.not_eq_true', List.isEmpty_eq_false_iff, decide_eq_true_eq] at kept
  by_cases up : name = Text.ofString ".."
  · exact .inr up
  · exact .inl ⟨kept.1, ⟨kept.2, up⟩, Text.not_mem_of_splitOn piece⟩

theorem isPlain_join (one : path.IsPlain) (two : other.IsPlain) : (path.join other).IsPlain := by
  unfold join
  split
  · exact two
  · intro name member
    rcases List.mem_append.mp member with member | member
    · exact one name member
    · exact two name member

theorem isPlain_child (plain : path.IsPlain) (below : Text) : (path.child below).IsPlain := isPlain_join plain (isPlain_ofText below)

theorem isPlain_parent (plain : path.IsPlain) : path.parent.IsPlain :=
  fun name member => plain name ((List.dropLast_sublist path.names).subset member)

theorem ofText_of_isFileName (proper : IsFileName name) : ofText name = ⟨0, [name]⟩ := by
  have none : name.takeWhile (· = separator) = [] := by
    cases name with
    | nil => rfl
    | cons c rest =>
      have apart : ¬c = separator := fun same => proper.whole (same ▸ List.mem_cons_self ..)
      exact List.takeWhile_cons_of_neg (by simpa using apart)
  rw [ofText, none, Text.splitOn_of_not_mem proper.whole, List.filter_cons_of_pos]
  · rfl
  · simp [proper.present, proper.named.1]

theorem child_of_isFileName (proper : IsFileName name) : path.child name = ⟨path.slashes, path.names ++ [name]⟩ := by
  rw [child, ofText_of_isFileName proper]
  rfl

theorem place_child (proper : IsFileName name) : (path.child name).place = path.place ++ [.given name] := by
  rw [child_of_isFileName proper]
  unfold place
  rw [List.foldl_append]
  exact if_neg proper.named.2

theorem split_of_point {stem suffix : Text} (some : stem ≠ []) (long : suffix ≠ []) (last : .char '.' ∉ suffix) :
    split (stem ++ .char '.' :: suffix) = (stem, .char '.' :: suffix) := by
  have tail : ((stem ++ .char '.' :: suffix).reverse.takeWhile (· ≠ .char '.')).reverse = suffix := by
    rw [List.reverse_append, List.reverse_cons, List.append_assoc, List.takeWhile_append_of_pos]
    · simp
    · intro c member
      exact decide_eq_true fun same => last (same ▸ List.mem_reverse.mp member)
  have head : (stem ++ .char '.' :: suffix).take ((stem ++ .char '.' :: suffix).length - suffix.length - 1) = stem := by
    have length : (stem ++ .char '.' :: suffix).length - suffix.length - 1 = stem.length := by
      rw [List.length_append, List.length_cons]
      omega
    rw [length, List.take_left]
  have longer : (stem ++ .char '.' :: suffix).length ≠ suffix.length := by
    rw [List.length_append, List.length_cons]
    omega
  unfold split
  rw [tail]
  dsimp only
  rw [head, if_neg]
  rw [List.isEmpty_iff, List.isEmpty_iff]
  exact not_or.mpr ⟨longer.symm, not_or.mpr ⟨long, some⟩⟩

def nameBytes? : CodePoint → Option Bytes
  | .char c => some (Utf8.encodeOne c)
  | half => (Utf8.strayByte? half).map fun byte => [byte]

def Takes (c : CodePoint) : Prop := ∃ bytes ∈ nameBytes? c, 0 ∉ bytes

-- What is encoded without a NUL is so code point by code point.
theorem encodeNameFrom_iff (index : Nat) (text : Text) :
    (∃ bytes, Utf8.encodeNameFrom index text = .ok bytes ∧ 0 ∉ bytes) ↔ ∀ c ∈ text, Takes c := by
  induction text generalizing index with
  | nil => simp [Utf8.encodeNameFrom]
  | cons c rest ih =>
    have joined : ∀ first : Bytes, (∃ bytes, (Utf8.encodeNameFrom (index + 1) rest).map (first ++ ·) = .ok bytes ∧ 0 ∉ bytes) ↔
        0 ∉ first ∧ ∀ c ∈ rest, Takes c := by
      intro first
      rw [← ih (index + 1)]
      constructor
      · rintro ⟨_, encoded, clean⟩
        obtain ⟨later, same, rfl⟩ := map_eq_ok_iff.mp encoded
        rw [List.mem_append, not_or] at clean
        exact ⟨clean.1, later, same, clean.2⟩
      · rintro ⟨clean, later, same, also⟩
        refine ⟨first ++ later, by rw [same]; rfl, ?_⟩
        rw [List.mem_append, not_or]
        exact ⟨clean, also⟩
    rw [List.forall_mem_cons]
    cases c with
    | char value => simpa [Utf8.encodeNameFrom, Takes, nameBytes?] using joined (Utf8.encodeOne value)
    | surrogate offset =>
      have taken : Takes (.surrogate offset) ↔ ∃ byte, Utf8.strayByte? (.surrogate offset) = some byte ∧ 0 ∉ [byte] := by
        simp [Takes, nameBytes?]
      rw [taken]
      unfold Utf8.encodeNameFrom
      cases Utf8.strayByte? (.surrogate offset) with
      | none => simp
      | some byte => simpa using joined [byte]

theorem checkText_eq_ok_iff : checkText text = .ok () ↔ ∀ c ∈ text, Takes c := by
  rw [← encodeNameFrom_iff 0 text]
  unfold checkText Utf8.encodeName
  cases Utf8.encodeNameFrom 0 text with
  | error reason => simp
  | ok bytes => simp

theorem cause_of_checkText {mishap : Mishap} (refused : checkText text = .error mishap) :
    (∃ error, mishap = .encoding error) ∨ mishap = .nullByte := by
  unfold checkText at refused
  split at refused
  · rename_i error _
    cases refused
    exact .inl ⟨error, rfl⟩
  · split at refused
    · cases refused
      exact .inr rfl
    · cases refused

theorem mem_toText (member : c ∈ path.toText) : c = '/' ∨ c = '.' ∨ ∃ name ∈ path.names, c ∈ name := by
  unfold toText at member
  split at member
  · exact .inr (.inl (List.mem_singleton.mp member))
  · rcases List.mem_append.mp member with slash | named
    · exact .inl (List.mem_replicate.mp slash).2
    · rcases Text.mem_joined named with slash | found
      · exact .inl (List.mem_singleton.mp slash)
      · exact .inr (.inr found)

theorem mem_toText_of_mem {name : Text} (listed : name ∈ path.names) (member : c ∈ name) : c ∈ path.toText := by
  have present : ¬(path.slashes = 0 ∧ path.names.isEmpty) := by
    intro none
    rw [List.isEmpty_iff.mp none.2] at listed
    cases listed
  rw [toText, if_neg present]
  exact List.mem_append_right _ (Text.mem_joined_of_mem listed member)

theorem takes_separator : Takes separator := ⟨_, rfl, by decide⟩

theorem check_eq_ok_iff : path.check = .ok () ↔ ∀ name ∈ path.names, ∀ c ∈ name, Takes c := by
  constructor
  · intro checked name listed c member
    exact checkText_eq_ok_iff.mp checked c (mem_toText_of_mem listed member)
  · intro taken
    refine checkText_eq_ok_iff.mpr fun c member => ?_
    rcases mem_toText member with rfl | rfl | ⟨name, listed, member⟩
    · exact takes_separator
    · exact ⟨_, rfl, by decide⟩
    · exact taken name listed c member

theorem check_parent (checked : path.check = .ok ()) : path.parent.check = .ok () :=
  check_eq_ok_iff.mpr fun name listed =>
    check_eq_ok_iff.mp checked name ((List.dropLast_sublist path.names).subset listed)

theorem takes_name (checked : path.check = .ok ()) : ∀ c ∈ path.name, Takes c := by
  intro c member
  unfold name at member
  cases last : path.names.getLast? with
  | none =>
    rw [List.getLastD_eq_getLast?, last] at member
    cases member
  | some name =>
    rw [List.getLastD_eq_getLast?, last] at member
    exact check_eq_ok_iff.mp checked name (List.mem_of_getLast? last) c member

theorem takes_temporary (serial : Nat) : (∀ c ∈ (Name.temporary name serial).toText, Takes c) ↔ ∀ c ∈ name, Takes c := by
  have point := checkText_eq_ok_iff.mp (show checkText "." = .ok () by decide)
  have rest := checkText_eq_ok_iff.mp (show checkText ("." ++ Name.unknownPart ++ ".tmp") = .ok () by decide)
  unfold Name.toText
  simp only [List.mem_append] at rest ⊢
  constructor
  · exact fun taken c member => taken c (.inl (.inl (.inl (.inr member))))
  · rintro taken c ((((member | member) | member) | member) | member)
    · exact point c member
    · exact taken c member
    · exact point c member
    · exact rest c (.inl (.inr member))
    · exact rest c (.inr member)

theorem check_of_parent (ofParent : path.parent.check = .ok ()) (ofName : ∀ c ∈ path.name, Takes c) : path.check = .ok () := by
  refine check_eq_ok_iff.mpr fun name listed => ?_
  have present := List.ne_nil_of_mem listed
  have last : path.name = path.names.getLast present := by
    rw [Path.name, List.getLastD_eq_getLast?, List.getLast?_eq_some_getLast present]
    rfl
  rw [← List.dropLast_concat_getLast present, List.mem_append, List.mem_singleton] at listed
  rcases listed with earlier | same
  · exact check_eq_ok_iff.mp ofParent name earlier
  · exact same ▸ last ▸ ofName

theorem normalNames_subset (names : List Text) : normalNames names ⊆ names := by
  unfold normalNames
  rw [List.reverse_subset]
  refine List.foldlRecOn (motive := fun taken => taken ⊆ names) names _ (List.nil_subset _) fun taken kept name listed => ?_
  split
  · split
    · exact List.cons_subset.mpr ⟨listed, List.nil_subset _⟩
    · split
      · exact List.cons_subset.mpr ⟨listed, kept⟩
      · exact (List.cons_subset.mp kept).2
  · exact List.cons_subset.mpr ⟨listed, kept⟩

theorem check_normal (checked : path.check = .ok ()) : path.normal.check = .ok () := by
  refine check_eq_ok_iff.mpr fun name listed => check_eq_ok_iff.mp checked name (normalNames_subset _ ?_)
  unfold normal at listed
  split at listed
  · exact (List.dropWhile_sublist _).subset listed
  · exact listed

end Path

namespace Location

variable {location : Location} {path : Path} {name : Text}

def EndsWell (location : Location) : Prop := ∀ name, location.getLast? = some (.given name) → IsFileName name

inductive IsReached : Location → Prop where
  | fixed {place : Location} : place.isFixed → IsReached place
  | inside {place : Location} {name : Text} : IsReached place → IsFileName name → IsReached (place ++ [.given name])

theorem isReached_child (reached : IsReached location) (plain : IsFileName name ∨ name = Text.ofString "..") :
    IsReached (location.child name) := by
  unfold child
  split
  · unfold parent
    split
    · rename_i above
      refine .fixed ?_
      simp only [isFixed, isAbove, List.all_append, List.all_cons, List.all_nil, decide_true, Bool.and_true, Bool.or_eq_true]
      exact .inl above
    · rename_i notAbove
      split
      · exact reached
      · rename_i notRoot
        cases reached with
        | fixed fixed =>
          rw [isFixed, Bool.or_eq_true, decide_eq_true_eq] at fixed
          exact (fixed.elim notAbove notRoot).elim
        | inside inner proper =>
          rw [List.dropLast_concat]
          exact inner
  · rename_i notUp
    exact .inside reached (plain.resolve_right notUp)

theorem isReached_place (plain : path.IsPlain) : IsReached path.place := by
  have kept : ∀ (names : List Text) (location : Location), (∀ name ∈ names, IsFileName name ∨ name = Text.ofString "..") →
      IsReached location → IsReached (names.foldl child location) := by
    intro names
    induction names with
    | nil => exact fun location _ reached => reached
    | cons name rest ih =>
      intro location plain reached
      exact ih _ (fun name member => plain name (List.mem_cons_of_mem _ member))
        (isReached_child reached (plain name (List.mem_cons_self ..)))
  refine kept path.names path.start plain (.fixed ?_)
  unfold Path.start
  split <;> rfl

theorem endsWell_of_isFileName (proper : IsFileName name) : Location.EndsWell (location ++ [.given name]) := by
  intro other last
  rw [List.getLast?_concat, Option.some.injEq, Name.given.injEq] at last
  exact last ▸ proper

theorem endsWell_of_isReached (reached : IsReached location) (free : ¬location.isFixed) : location.EndsWell := by
  cases reached with
  | fixed fixed => exact absurd fixed free
  | inside inner proper => exact endsWell_of_isFileName proper

end Location

end ChangeCapture
