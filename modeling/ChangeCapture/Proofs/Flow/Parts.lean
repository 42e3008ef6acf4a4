import ChangeCapture.Flow.Parts
import ChangeCapture.Flow.Template
import ChangeCapture.Proofs.Json.Fields

namespace ChangeCapture

open FlowTemplate (Edge)

namespace Part

variable {item : Json} {items : List Json} {id : Text} {fields : Fields}

theorem hasId_iff_id? : hasId id item ↔ id? item = some (.text id) := decide_eq_true_iff

theorem hasId_iff : hasId id item ↔ ∃ fields, item = .object fields ∧ fields.lookup ("identifier" : Text) = some (.text id) := by
  rw [hasId_iff_id?]
  cases item <;> simp [id?]

theorem hasId_unique {other : Text} (one : hasId id item) (two : hasId other item) : id = other := by
  rw [hasId_iff_id?] at one two
  simpa [one] using two

theorem find?_eq_some_iff : find? items id = some fields ↔ items.find? (hasId id) = some (.object fields) := by
  unfold find?
  split
  · rename_i found same
    simp [same]
  · rename_i other
    constructor
    · intro absent
      cases absent
    · exact fun found => absurd found (other fields)

theorem mem_of_find? (found : find? items id = some fields) : .object fields ∈ items ∧ hasId id (.object fields) := by
  have first := find?_eq_some_iff.mp found
  exact ⟨List.mem_of_find?_eq_some first, List.find?_some first⟩

theorem id_of_find? (found : find? items id = some fields) : fields.lookup ("identifier" : Text) = some (.text id) :=
  hasId_iff_id?.mp (mem_of_find? found).2

theorem find?_isSome_iff : (find? items id).isSome ↔ ∃ item ∈ items, hasId id item := by
  rw [Option.isSome_iff_exists]
  constructor
  · intro held
    obtain ⟨fields, found⟩ := held
    exact ⟨_, mem_of_find? found⟩
  · intro held
    obtain ⟨item, member, named⟩ := held
    obtain ⟨first, found⟩ := Option.isSome_iff_exists.mp (List.find?_isSome.mpr ⟨item, member, named⟩)
    obtain ⟨fields, rfl, -⟩ := hasId_iff.mp (List.find?_some found)
    exact ⟨fields, find?_eq_some_iff.mpr found⟩

theorem hasId_of_lookup (named : fields.lookup ("identifier" : Text) = some (.text id)) : hasId id (.object fields) :=
  hasId_iff.mpr ⟨fields, rfl, named⟩

theorem find?_replaceFirst (found : (find? items id).isSome) (named : fields.lookup ("identifier" : Text) = some (.text id)) :
    find? (replaceFirst id fields items) id = some fields := by
  rw [find?_eq_some_iff]
  obtain ⟨item, member, there⟩ := find?_isSome_iff.mp found
  clear found
  induction items with
  | nil => cases member
  | cons first rest ih =>
    by_cases here : hasId id first
    · simp [replaceFirst, here, hasId_of_lookup named]
    · have later : item ∈ rest := by
        rcases List.mem_cons.mp member with rfl | later
        · exact absurd there here
        · exact later
      simp [replaceFirst, here, ih later]

theorem find?_replaceFirst_of_ne {other : Text} (apart : other ≠ id)
    (named : fields.lookup ("identifier" : Text) = some (.text id)) :
    find? (replaceFirst id fields items) other = find? items other := by
  have skipped : ∀ item, hasId id item → hasId other item = false := by
    intro item one
    cases two : hasId other item with
    | false => rfl
    | true => exact absurd (hasId_unique two one) apart
  have same : (replaceFirst id fields items).find? (hasId other) = items.find? (hasId other) := by
    induction items with
    | nil => rfl
    | cons first rest ih =>
      by_cases here : hasId id first
      · simp [replaceFirst, here, skipped _ here, skipped _ (hasId_of_lookup named)]
      · simp [replaceFirst, here, List.find?_cons, ih]
  simp [find?, same]

theorem ids_replaceFirst (named : fields.lookup ("identifier" : Text) = some (.text id)) :
    (replaceFirst id fields items).map id? = items.map id? := by
  induction items with
  | nil => rfl
  | cons first rest ih =>
    by_cases here : hasId id first
    · have own := hasId_iff_id?.mp here
      have given := hasId_iff_id?.mp (hasId_of_lookup named)
      simp [replaceFirst, here, own, given]
    · simp [replaceFirst, here, ih]

theorem replaceFirst_of_find? (found : find? items id = some fields) : replaceFirst id fields items = items := by
  rw [find?_eq_some_iff] at found
  induction items with
  | nil => rfl
  | cons first rest ih =>
    by_cases here : hasId id first
    · simp only [List.find?_cons, here, Option.some.injEq] at found
      rw [replaceFirst, if_pos here, found]
    · simp only [List.find?_cons, here] at found
      simp [replaceFirst, here, ih found]

theorem replaceFirst_replaceFirst {new : Fields} (named : fields.lookup ("identifier" : Text) = some (.text id)) :
    replaceFirst id new (replaceFirst id fields items) = replaceFirst id new items := by
  induction items with
  | nil => rfl
  | cons first rest ih =>
    by_cases here : hasId id first
    · simp [replaceFirst, here, hasId_of_lookup named]
    · simp [replaceFirst, here, ih]

-- What is replaced stands behind parts of other identifiers; they and the parts after
-- it are kept.
theorem split_of_find? (found : find? items id = some fields) :
    ∃ head tail, items = head ++ .object fields :: tail ∧ (∀ item ∈ head, ¬ hasId id item) ∧
      ∀ new, replaceFirst id new items = head ++ .object new :: tail := by
  obtain ⟨named, head, tail, rfl, before⟩ := List.find?_eq_some_iff_append.mp (find?_eq_some_iff.mp found)
  have apart : ∀ item ∈ head, ¬ hasId id item := fun item member => by simpa using before item member
  refine ⟨head, tail, rfl, apart, fun new => ?_⟩
  clear before found
  induction head with
  | nil => simp [replaceFirst, named]
  | cons first rest ih =>
    have other := apart first (List.mem_cons_self ..)
    simp [replaceFirst, other, ih fun item member => apart item (List.mem_cons_of_mem _ member)]

def changeAt (id : Text) (change : Fields → Fields) : Json → Json
  | .object fields => if hasId id (.object fields) then .object (change fields) else .object fields
  | other => other

theorem changeAt_of_hasId {change : Fields → Fields} (named : hasId id (.object fields)) :
    changeAt id change (.object fields) = .object (change fields) := if_pos named

theorem changeAt_of_not_hasId {change : Fields → Fields} (apart : ¬ hasId id item) : changeAt id change item = item := by
  cases item with
  | object fields => exact if_neg apart
  | null | bool | int | double | text | list => rfl

theorem replaceFirst_eq_map (distinct : (items.map id?).Nodup) (found : find? items id = some fields)
    (change : Fields → Fields) : replaceFirst id (change fields) items = items.map (changeAt id change) := by
  obtain ⟨head, tail, rfl, before, replaced⟩ := split_of_find? found
  have named := (mem_of_find? found).2
  rw [List.map_append, List.map_cons, List.nodup_append, List.nodup_cons] at distinct
  obtain ⟨-, ⟨later, -⟩, -⟩ := distinct
  have after : ∀ item ∈ tail, ¬ hasId id item := by
    intro item member other
    rw [hasId_iff_id?.mp named, ← hasId_iff_id?.mp other] at later
    exact later (List.mem_map_of_mem member)
  have kept : ∀ items : List Json, (∀ item ∈ items, ¬ hasId id item) → items.map (changeAt id change) = items := by
    intro items apart
    rw [List.map_congr_left fun item member => changeAt_of_not_hasId (apart item member), List.map_id']
  rw [replaced, List.map_append, List.map_cons, kept head before, kept tail after, changeAt_of_hasId named]

def edge? (connection : Json) : Option Edge :=
  match id? connection, end? connection "source", end? connection "destination" with
  | some (.text id), some (.text source), some (.text destination) => some ⟨id, source, destination⟩
  | _, _, _ => none

theorem edge?_eq_some_iff {edge : Edge} : edge? item = some edge ↔
    id? item = some (.text edge.id) ∧ end? item "source" = some (.text edge.source) ∧
      Part.end? item "destination" = some (.text edge.destination) := by
  unfold edge?
  constructor
  · intro read
    split at read
    · rename_i id source destination ofId ofSource ofDestination
      cases Option.some.inj read
      exact ⟨ofId, ofSource, ofDestination⟩
    · cases read
  · intro held
    obtain ⟨ofId, ofSource, ofDestination⟩ := held
    rw [ofId, ofSource, ofDestination]

end Part

namespace FlowTemplate

theorem edge_of_id {edge other : Edge} (left : edge ∈ edges) (right : other ∈ edges) (same : edge.id = other.id) :
    edge = other := by
  have distinct : (edges.map Edge.id).Nodup := by decide
  exact List.inj_on_of_nodup_map distinct left right same

end FlowTemplate

end ChangeCapture
