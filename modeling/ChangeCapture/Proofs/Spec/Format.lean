import ChangeCapture.Failure.Report
import ChangeCapture.Proofs.Json.Storable
import ChangeCapture.Proofs.Spec.Quoting
import Mathlib.Data.List.Forall2

namespace ChangeCapture.Spec

-- The documented format, as a relation between a document and the specification
-- that it states. A document never states two of them.
namespace Format

variable {α : Type}

def Required (states : Json → α → Prop) (field : Option Json) (part : α) : Prop :=
  ∃ document, field = some document ∧ states document part

theorem Required.object {states : Json → α → Prop} {document : Json} {name : Text} {part : α}
    (required : Required states (document.field? name) part) : ∃ fields, document = .object fields := by
  obtain ⟨_, found, -⟩ := required
  cases document with
  | object fields => exact ⟨fields, rfl⟩
  | _ => cases found

inductive Optional (states : Json → α → Prop) : Option Json → Option α → Prop
  | absent : Optional states none none
  | null : Optional states (some .null) none
  | stated {document : Json} {part : α} : states document part → Optional states (some document) (some part)

def IsList (states : Json → α → Prop) (document : Json) (parts : List α) : Prop :=
  ∃ items, document = .list items ∧ List.Forall₂ states items parts

def IsText (document : Json) (text : Text) : Prop := document = .text text

def IsName (document : Json) (name : Text) : Prop := IsText document name ∧ Identifier.accepts name

-- A truth value, the number 1 or 0, or one of a few words in letters of either case.
def IsTruth : Json → Bool → Prop
  | .bool b, truth => b = truth
  | .int n, truth => n = if truth then 1 else 0
  | .double x, truth => x.toInt? = some (if truth then 1 else 0)
  | .text t, truth =>
    t.map CodePoint.lowerAscii ∈ if truth then Validation.trueWords else Validation.falseWords
  | _, _ => False

def IsMapping (document : Json) (entries : Entries) : Prop :=
  ∃ fields, document = .object fields ∧ entries = Document.ofFields fields

structure IsColumn (document : Json) (column : Column) : Prop where
  name : Required IsName (document.field? "name") column.name
  type : Optional IsText (document.field? "type") column.type
  nullable : IsTruth ((document.field? "nullable").getD (.bool true)) column.nullable

structure IsTable (document : Json) (table : Table) : Prop where
  name : Required IsName (document.field? "name") table.name
  schema : Required IsName ((document.field? "schema").or (document.field? "schema_name")) table.schema
  primaryKey : Required IsName (document.field? "primary_key") table.primaryKey
  watermark : Required IsName (document.field? "cdc_key") table.watermark
  description : Optional IsText (document.field? "description") table.description

structure IsRange (document : Json) (windows : Windows) : Prop where
  options : Required (IsList IsText) (document.field? "options") windows.options
  default : Optional IsText (document.field? "default") windows.default
  present : windows.options ≠ []
  tokens : ∀ window ∈ windows.options, Window.accepts window
  distinct : windows.options.Nodup
  pinned : ∀ window, windows.default = some window → window ∈ windows.options

structure IsDestination (document : Json) (destination : Destination) : Prop where
  index : Required IsText (document.field? "index") destination.index
  filled : ¬destination.index.isBlank
  idField : Required IsName (document.field? "id_field") destination.idField
  mapping : Optional IsMapping (document.field? "mapping") destination.mapping

structure IsCapture (document : Json) (capture : Capture) : Prop where
  object : document.isObject
  mode : IsText ((document.field? "mode").getD (.text "timestamp")) capture.mode ∧ capture.mode = "timestamp"
  deletes : IsText ((document.field? "delete_handling").getD (.text "ignore")) capture.deleteHandling
  updates : IsText ((document.field? "update_handling").getD (.text "upsert")) capture.updateHandling ∧
    capture.updateHandling = "upsert"

-- Columns that are enumerated have names distinct in letters of either case, among
-- them those of the watermark and of the primary key.
structure Enumerates (columns : List Column) (table : Table) : Prop where
  present : columns ≠ []
  distinct : (columns.map fun column => column.name.upper).Nodup
  watermark : table.watermark.upper ∈ columns.map fun column => column.name.upper
  primaryKey : table.primaryKey.upper ∈ columns.map fun column => column.name.upper

structure IsSpec (document : Json) (spec : Spec) : Prop where
  table : Required IsTable (document.field? "table") spec.table
  windows : Required IsRange (document.field? "range") spec.windows
  destination : Required IsDestination (document.field? "elasticsearch") spec.destination
  columns : Optional (IsList IsColumn) (document.field? "columns") spec.columns
  capture : IsCapture ((document.field? "cdc").getD (.object [])) spec.capture
  idField : spec.destination.idField = spec.table.primaryKey
  enumerated : ∀ columns, spec.columns = some columns → Enumerates columns spec.table

end Format

end ChangeCapture.Spec

namespace ChangeCapture

namespace Document

theorem entry?_ofFields (fields : Fields) (name : Text) :
    entry? (ofFields fields) name = ((Json.object fields).field? name).map ofJson := by
  unfold entry? Json.field?
  dsimp only
  induction fields with
  | nil => rfl
  | cons field rest ih =>
    obtain ⟨key, value⟩ := field
    rw [ofFields, List.lookup_cons]
    by_cases same : key = name
    · subst same
      simp
    · have other : (name == key) = false := by simpa using Ne.symm same
      rw [other, ← ih]
      simp [same]

end Document

namespace Checked

variable {α : Type} {stated : Json → α → Prop}

theorem all_mapIdx_eq_ok_iff {items : List Json} {values : List α} {read : Nat → Document → Checked α}
    (each : ∀ index item value, read index (.ofJson item) = .ok value ↔ stated item value) :
    all ((Document.ofItems items).mapIdx read) = .ok values ↔ List.Forall₂ stated items values := by
  rw [all_eq_ok_iff]
  induction items generalizing read values with
  | nil => simp [Document.ofItems, eq_comm]
  | cons item rest ih =>
    rw [Document.ofItems, List.mapIdx_cons, List.forall₂_cons_left_iff]
    cases values with
    | nil => simp
    | cons value values =>
      rw [List.map_cons, List.cons.injEq, each, ih fun index => each (index + 1)]
      constructor
      · intro held
        exact ⟨value, values, held.1, held.2, rfl⟩
      · intro held
        obtain ⟨_, _, first, later, same⟩ := held
        cases same
        exact ⟨first, later⟩

end Checked

namespace Spec.Validation

open Format

variable {α : Type} {path : List Text} {field : Option Json} {document : Json}

theorem textAt_eq_ok_iff {text : Text} : textAt path (.ofJson document) = .ok text ↔ IsText document text := by
  unfold IsText
  cases document <;> simp [Document.ofJson, textAt, Checked.fail]

theorem required_ofJson_iff {read : Document → Checked α} {states : Json → α → Prop} {part : α}
    (each : ∀ document, read (.ofJson document) = .ok part ↔ states document part) :
    required path read (field.map .ofJson) = .ok part ↔ Required states field part := by
  rw [required_eq_ok_iff]
  constructor
  · intro held
    obtain ⟨_, found, parsed⟩ := held
    obtain ⟨document, there, rfl⟩ := Option.map_eq_some_iff.mp found
    exact ⟨document, there, (each document).mp parsed⟩
  · intro held
    obtain ⟨document, there, stated⟩ := held
    exact ⟨_, Option.map_eq_some_iff.mpr ⟨document, there, rfl⟩, (each document).mpr stated⟩

theorem optional_ofJson_iff {read : Document → Checked α} {states : Json → α → Prop} {part : Option α}
    (each : ∀ document value, read (.ofJson document) = .ok value ↔ states document value)
    (neverNull : ∀ value, ¬states .null value) :
    optional read (field.map .ofJson) = .ok part ↔ Optional states field part := by
  cases field with
  | none =>
    constructor
    · intro held
      cases held
      exact .absent
    · intro held
      cases held
      rfl
  | some document =>
    cases isNull : document with
    | null =>
      constructor
      · intro held
        cases held
        exact .null
      · intro held
        cases held with
        | null => rfl
        | stated held => exact absurd held (neverNull _)
    | _ =>
      have present : optional read (some (.ofJson document)) = (read (.ofJson document)).map some := by
        rw [isNull]
        rfl
      rw [isNull] at present
      rw [Option.map_some, present, map_eq_ok_iff]
      constructor
      · intro held
        obtain ⟨value, parsed, rfl⟩ := held
        exact .stated ((each _ _).mp parsed)
      · intro held
        cases held with
        | stated held => exact ⟨_, (each _ _).mpr held, rfl⟩

theorem optionalText_ofJson_iff {text : Option Text} :
    optional (textAt path) (field.map .ofJson) = .ok text ↔ Optional IsText field text := by
  apply optional_ofJson_iff
  · exact fun _ _ => textAt_eq_ok_iff
  · exact nofun

theorem orElse_ofJson (first second : Option Json) :
    (first.or second).map Document.ofJson = (first.map Document.ofJson).orElse fun _ => second.map Document.ofJson := by
  cases first <;> rfl

theorem identifierRule_eq_none_iff {name : Text} : identifierRule name = none ↔ Identifier.accepts name := by
  unfold identifierRule
  split <;> simp [*]

theorem identifierAt_ofJson_iff {name : Text} :
    identifierAt path (field.map .ofJson) = .ok name ↔ Required IsName field name := by
  unfold identifierAt
  rw [Checked.ensure_eq_ok_iff, identifierRule_eq_none_iff, required_ofJson_iff fun _ => textAt_eq_ok_iff]
  constructor
  · intro held
    obtain ⟨⟨document, found, text⟩, accepted⟩ := held
    exact ⟨document, found, text, accepted⟩
  · intro held
    obtain ⟨document, found, text, accepted⟩ := held
    exact ⟨⟨document, found, text⟩, accepted⟩

theorem eachAt_ofJson_iff {read : List Text → Document → Checked α} {states : Json → α → Prop} {parts : List α}
    (each : ∀ path document part, read path (.ofJson document) = .ok part ↔ states document part) :
    eachAt path read (.ofJson document) = .ok parts ↔ IsList states document parts := by
  unfold eachAt IsList
  cases document with
  | list items =>
    simp only [Document.ofJson, itemsAt, Checked.all_mapIdx_eq_ok_iff fun index => each (path ++ [Text.ofNat index])]
    simp
  | _ => simp [Document.ofJson, itemsAt, Checked.fail]

theorem keyed_ofFields (path : List Text) (fields : Fields) :
    keyed path (Document.ofFields fields) = .ok (Document.ofFields fields) := by
  have keys : Checked.all ((Document.ofFields fields).map fun entry =>
      textAt (path ++ ([entry.1.pathStep, "[key]"] : List Text)) entry.1) = .ok (fields.map Prod.fst) := by
    rw [Checked.all_eq_ok_iff]
    induction fields with
    | nil => rfl
    | cons field rest ih =>
      rw [Document.ofFields, List.map_cons, ih]
      rfl
  have same : (fields.map Prod.fst).zipWith (fun key entry => (.text key, entry.2)) (Document.ofFields fields) =
      Document.ofFields fields := by
    clear keys
    induction fields with
    | nil => rfl
    | cons field rest ih =>
      obtain ⟨name, value⟩ := field
      rw [Document.ofFields, List.map_cons, List.zipWith_cons_cons, ih]
  unfold keyed
  rw [keys]
  exact congrArg _ same

theorem mappingAt_eq_ok_iff {entries : Entries} :
    mappingAt path (.ofJson document) = .ok entries ↔ IsMapping document entries := by
  unfold IsMapping
  cases document with
  | object fields =>
    simp only [Document.ofJson, mappingAt, keyed_ofFields, Except.ok.injEq, Json.object.injEq]
    simp [eq_comm]
  | _ => simp [Document.ofJson, mappingAt, Checked.fail]

theorem wordValue?_eq_some_iff {text : Text} {truth : Bool} : wordValue? text = some truth ↔ IsTruth (.text text) truth := by
  have apart : ∀ word ∈ falseWords, word ∉ trueWords := by decide
  simp only [wordValue?, IsTruth, List.contains_iff_mem]
  cases truth with
  | true =>
    split
    · simp [*]
    · split <;> simp [*]
  | false =>
    split
    · rename_i isTrue
      simp only [Option.some.injEq, Bool.true_eq_false, false_iff]
      intro isFalse
      exact apart _ isFalse isTrue
    · split <;> simp [*]

theorem wholeAt_eq_ok_iff {isWide : Int → Bool} {n : Int} {truth : Bool} :
    wholeAt path isWide n = .ok truth ↔ n = if truth then 1 else 0 := by
  unfold wholeAt
  by_cases one : n = 1
  · subst one
    cases truth <;> simp
  · by_cases zero : n = 0
    · subst zero
      cases truth <;> simp
    · rw [if_neg one, if_neg zero]
      have neither : ¬n = if truth then 1 else 0 := by cases truth <;> simpa
      split <;> simp [Checked.fail, neither]

-- The words have no surrogate halves, so a text with one is none of them.
theorem noHalf_of_isTruth {text : Text} {truth : Bool} (stated : IsTruth (.text text) truth) : ¬text.any Utf8.isHalf := by
  have words : ∀ word ∈ trueWords ++ falseWords, ¬word.any Utf8.isHalf := by decide
  have kept : ∀ c : CodePoint, Utf8.isHalf c → c.lowerAscii = c := by
    intro c half
    cases c with
    | char => cases half
    | surrogate offset =>
      have above := (CodePoint.toNat_surrogate offset).1
      have other : (CodePoint.surrogate offset).isUpperLetter = false := by
        simp only [CodePoint.isUpperLetter, Bool.and_eq_false_iff, decide_eq_false_iff_not]
        omega
      rw [CodePoint.lowerAscii, other]
      rfl
  have listed : text.map CodePoint.lowerAscii ∈ trueWords ++ falseWords := by
    apply List.mem_append.mpr
    cases truth with
    | true => exact .inl stated
    | false => exact .inr stated
  intro halved
  obtain ⟨c, member, half⟩ := List.any_eq_true.mp halved
  apply words _ listed
  apply List.any_eq_true.mpr
  refine ⟨c.lowerAscii, List.mem_map_of_mem member, ?_⟩
  rw [kept c half]
  exact half

theorem booleanAt_eq_ok_iff {truth : Bool} : booleanAt path (.ofJson document) = .ok truth ↔ IsTruth document truth := by
  cases document with
  | null | list | object => simp [Document.ofJson, booleanAt, IsTruth, Checked.fail]
  | bool b => simp [Document.ofJson, booleanAt, IsTruth]
  | int n =>
    simp only [Document.ofJson, booleanAt, IsTruth]
    exact wholeAt_eq_ok_iff
  | double x =>
    simp only [Document.ofJson, booleanAt, IsTruth]
    cases x.toInt? with
    | none => simp [Checked.fail]
    | some n => exact wholeAt_eq_ok_iff.trans (Option.some_inj (a := n)).symm
  | text t =>
    simp only [Document.ofJson, booleanAt]
    split
    · rename_i halved
      simp only [Checked.fail, reduceCtorEq, false_iff]
      intro stated
      exact noHalf_of_isTruth stated halved
    · rw [← wordValue?_eq_some_iff]
      unfold wordAt
      cases wordValue? t <;> simp [Checked.fail]

theorem entriesAt_eq_ok_iff {model : Text} {entries : Entries} : entriesAt path model (.ofJson document) = .ok entries ↔
    ∃ fields, document = .object fields ∧ entries = Document.ofFields fields := by
  cases document with
  | object fields => simp [Document.ofJson, entriesAt, eq_comm]
  | _ => simp [Document.ofJson, entriesAt, Checked.fail]

theorem nullableAt_eq_ok_iff {truth : Bool} : (match field.map Document.ofJson with
    | none => (.ok true : Checked Bool)
    | some value => booleanAt path value) = .ok truth ↔ IsTruth (field.getD (.bool true)) truth := by
  cases field with
  | none => simp [IsTruth]
  | some value => exact booleanAt_eq_ok_iff

theorem columnAt_eq_ok_iff {column : Column} : columnAt path (.ofJson document) = .ok column ↔ IsColumn document column := by
  constructor
  · intro read
    unfold columnAt at read
    split at read
    · cases read
    · rename_i given
      obtain ⟨fields, rfl, rfl⟩ := entriesAt_eq_ok_iff.mp given
      simp only [Document.entry?_ofFields] at read
      split at read
      · rename_i ofName ofType ofNullable
        cases read
        exact ⟨identifierAt_ofJson_iff.mp ofName, optionalText_ofJson_iff.mp ofType,
          nullableAt_eq_ok_iff.mp ofNullable⟩
      · cases read
  · intro stated
    obtain ⟨fields, rfl⟩ := stated.name.object
    have nullable := stated.nullable
    simp only [Document.ofJson, columnAt, entriesAt, Document.entry?_ofFields, identifierAt_ofJson_iff.mpr stated.name,
      optionalText_ofJson_iff.mpr stated.type]
    cases given : (Json.object fields).field? "nullable" with
    | none =>
      rw [given] at nullable
      exact congrArg (fun truth => Except.ok (Column.mk column.name column.type truth)) nullable
    | some value =>
      rw [given, Option.getD_some] at nullable
      simp only [Option.map_some, booleanAt_eq_ok_iff.mpr nullable]

theorem tableAt_eq_ok_iff {table : Table} : tableAt path (.ofJson document) = .ok table ↔ IsTable document table := by
  constructor
  · intro read
    unfold tableAt at read
    split at read
    · cases read
    · rename_i given
      obtain ⟨fields, rfl, rfl⟩ := entriesAt_eq_ok_iff.mp given
      simp only [Document.entry?_ofFields, ← orElse_ofJson] at read
      split at read
      · rename_i ofName ofSchema ofKey ofWatermark ofDescription
        cases read
        exact ⟨identifierAt_ofJson_iff.mp ofName, identifierAt_ofJson_iff.mp ofSchema, identifierAt_ofJson_iff.mp ofKey,
          identifierAt_ofJson_iff.mp ofWatermark, optionalText_ofJson_iff.mp ofDescription⟩
      · cases read
  · intro stated
    obtain ⟨fields, rfl⟩ := stated.name.object
    simp only [Document.ofJson, tableAt, entriesAt, Document.entry?_ofFields, ← orElse_ofJson,
      identifierAt_ofJson_iff.mpr stated.name, identifierAt_ofJson_iff.mpr stated.schema,
      identifierAt_ofJson_iff.mpr stated.primaryKey, identifierAt_ofJson_iff.mpr stated.watermark,
      optionalText_ofJson_iff.mpr stated.description]

theorem defaultRule_eq_none_iff {windows : Windows} :
    defaultRule windows = none ↔ ∀ window, windows.default = some window → window ∈ windows.options := by
  unfold defaultRule
  cases windows.default with
  | none => simp
  | some window => simp

theorem optionsAt_eq_ok_iff {options : List Text} :
    Checked.ensure (required path (eachAt path textAt) (field.map .ofJson)) path optionsRule = .ok options ↔
      Required (IsList IsText) field options ∧ options ≠ [] ∧ (∀ window ∈ options, Window.accepts window) ∧ options.Nodup := by
  rw [Checked.ensure_eq_ok_iff, optionsRule_eq_none_iff,
    required_ofJson_iff fun _ => eachAt_ofJson_iff fun _ _ _ => textAt_eq_ok_iff]

theorem windowsAt_eq_ok_iff {windows : Windows} : windowsAt path (.ofJson document) = .ok windows ↔ IsRange document windows := by
  constructor
  · intro read
    unfold windowsAt at read
    split at read
    · cases read
    · rename_i given
      obtain ⟨fields, rfl, rfl⟩ := entriesAt_eq_ok_iff.mp given
      simp only [Document.entry?_ofFields] at read
      split at read
      · rename_i ofOptions ofDefault
        obtain ⟨same, unbroken⟩ := Checked.ensure_eq_ok_iff.mp read
        cases same
        obtain ⟨options, present, tokens, distinct⟩ := optionsAt_eq_ok_iff.mp ofOptions
        exact ⟨options, optionalText_ofJson_iff.mp ofDefault, present, tokens, distinct, defaultRule_eq_none_iff.mp unbroken⟩
      · cases read
  · intro stated
    obtain ⟨fields, rfl⟩ := stated.options.object
    simp only [Document.ofJson, windowsAt, entriesAt, Document.entry?_ofFields,
      optionsAt_eq_ok_iff.mpr ⟨stated.options, stated.present, stated.tokens, stated.distinct⟩,
      optionalText_ofJson_iff.mpr stated.default]
    exact Checked.ensure_eq_ok_iff.mpr ⟨rfl, defaultRule_eq_none_iff.mpr stated.pinned⟩

theorem indexAt_eq_ok_iff {index : Text} :
    Checked.ensure (required path (textAt path) (field.map .ofJson)) path indexRule = .ok index ↔
      Required IsText field index ∧ ¬index.isBlank := by
  rw [Checked.ensure_eq_ok_iff, required_ofJson_iff fun _ => textAt_eq_ok_iff]
  unfold indexRule
  split <;> simp [*]

theorem optionalMapping_ofJson_iff {mapping : Option Entries} :
    optional (mappingAt path) (field.map .ofJson) = .ok mapping ↔ Optional IsMapping field mapping := by
  apply optional_ofJson_iff
  · exact fun _ _ => mappingAt_eq_ok_iff
  · intro _ stated
    obtain ⟨_, same, -⟩ := stated
    cases same

theorem destinationAt_eq_ok_iff {destination : Destination} :
    destinationAt path (.ofJson document) = .ok destination ↔ IsDestination document destination := by
  constructor
  · intro read
    unfold destinationAt at read
    split at read
    · cases read
    · rename_i given
      obtain ⟨fields, rfl, rfl⟩ := entriesAt_eq_ok_iff.mp given
      simp only [Document.entry?_ofFields] at read
      split at read
      · rename_i ofIndex ofKey ofMapping
        cases read
        obtain ⟨index, filled⟩ := indexAt_eq_ok_iff.mp ofIndex
        exact ⟨index, filled, identifierAt_ofJson_iff.mp ofKey, optionalMapping_ofJson_iff.mp ofMapping⟩
      · cases read
  · intro stated
    obtain ⟨fields, rfl⟩ := stated.index.object
    simp only [Document.ofJson, destinationAt, entriesAt, Document.entry?_ofFields,
      indexAt_eq_ok_iff.mpr ⟨stated.index, stated.filled⟩, identifierAt_ofJson_iff.mpr stated.idField,
      optionalMapping_ofJson_iff.mpr stated.mapping]

theorem standardTextAt_eq_ok_iff {standard text : Text} : (match field.map Document.ofJson with
    | none => (.ok standard : Checked Text)
    | some value => textAt path value) = .ok text ↔ IsText (field.getD (.text standard)) text := by
  cases field with
  | none => simp [IsText]
  | some value => exact textAt_eq_ok_iff

theorem fixedTextAt_eq_ok_iff {standard text : Text} {broken : Text → Rule} :
    Checked.ensure (match field.map Document.ofJson with
      | none => (.ok standard : Checked Text)
      | some value => textAt path value) path (fun value => if value = standard then none else some (broken value)) =
        .ok text ↔ IsText (field.getD (.text standard)) text ∧ text = standard := by
  rw [Checked.ensure_eq_ok_iff, standardTextAt_eq_ok_iff]
  simp

theorem captureAt_eq_ok_iff {capture : Capture} :
    captureAt path (.ofJson document) = .ok capture ↔ IsCapture document capture := by
  constructor
  · intro read
    unfold captureAt at read
    split at read
    · cases read
    · rename_i given
      obtain ⟨fields, rfl, rfl⟩ := entriesAt_eq_ok_iff.mp given
      simp only [Document.entry?_ofFields] at read
      split at read
      · rename_i ofMode ofDeletes ofUpdates
        cases read
        exact ⟨rfl, fixedTextAt_eq_ok_iff.mp ofMode, standardTextAt_eq_ok_iff.mp ofDeletes, fixedTextAt_eq_ok_iff.mp ofUpdates⟩
      · cases read
  · intro stated
    obtain ⟨object, mode, deletes, updates⟩ := stated
    cases document with
    | object fields =>
      simp only [Document.ofJson, captureAt, entriesAt, Document.entry?_ofFields]
      split
      · rename_i ofMode ofDeletes ofUpdates
        cases ofMode.symm.trans (fixedTextAt_eq_ok_iff.mpr mode)
        cases ofDeletes.symm.trans (standardTextAt_eq_ok_iff.mpr deletes)
        cases ofUpdates.symm.trans (fixedTextAt_eq_ok_iff.mpr updates)
        rfl
      · rename_i broken
        exact (broken _ _ _ (fixedTextAt_eq_ok_iff.mpr mode) (standardTextAt_eq_ok_iff.mpr deletes)
          (fixedTextAt_eq_ok_iff.mpr updates)).elim
    | _ => cases object

theorem optionalCapture_eq_ok_iff {capture : Capture} : (match field.map Document.ofJson with
    | none => (.ok .standard : Checked Capture)
    | some value => captureAt path value) = .ok capture ↔ IsCapture (field.getD (.object [])) capture := by
  cases field with
  | none =>
    have standard : captureAt path (.ofJson (.object [])) = .ok .standard := rfl
    rw [Option.getD_none, ← captureAt_eq_ok_iff, standard]
    rfl
  | some value => exact captureAt_eq_ok_iff

theorem columnsRule_eq_none_iff {columns : List Column} :
    columnsRule columns = none ↔ columns ≠ [] ∧ (columns.map fun column => column.name.upper).Nodup := by
  unfold columnsRule hasRepeats
  cases columns with
  | nil => simp
  | cons column rest =>
    simp

theorem columns_eq_ok_iff {columns : Option (List Column)} :
    optional (fun value => Checked.ensure (eachAt path columnAt value) path columnsRule) (field.map .ofJson) = .ok columns ↔
      Optional (IsList IsColumn) field columns ∧ ∀ found, columns = some found → columnsRule found = none := by
  have each : ∀ document columns, Checked.ensure (eachAt path columnAt (.ofJson document)) path columnsRule = .ok columns ↔
      IsList IsColumn document columns ∧ columnsRule columns = none := by
    intro document columns
    rw [Checked.ensure_eq_ok_iff, eachAt_ofJson_iff fun _ _ _ => columnAt_eq_ok_iff]
  have neverNull : ∀ columns, ¬(IsList IsColumn .null columns ∧ columnsRule columns = none) := by
    intro columns stated
    obtain ⟨⟨_, same, -⟩, -⟩ := stated
    cases same
  rw [optional_ofJson_iff each neverNull]
  constructor
  · intro held
    cases held with
    | absent => exact ⟨.absent, nofun⟩
    | null => exact ⟨.null, nofun⟩
    | stated held =>
      refine ⟨.stated held.1, ?_⟩
      intro found same
      cases same
      exact held.2
  · intro held
    obtain ⟨held, unbroken⟩ := held
    cases held with
    | absent => exact .absent
    | null => exact .null
    | stated held => exact .stated ⟨held, unbroken _ rfl⟩

theorem specRule_eq_none_iff {spec : Spec} : specRule spec = none ↔ spec.destination.idField = spec.table.primaryKey ∧
    ∀ columns, spec.columns = some columns →
      spec.table.watermark.upper ∈ (columns.map fun column => column.name.upper) ∧
      spec.table.primaryKey.upper ∈ (columns.map fun column => column.name.upper) := by
  unfold specRule
  by_cases same : spec.destination.idField = spec.table.primaryKey
  · rw [if_neg (not_not.mpr same)]
    cases given : spec.columns with
    | none => simp [same]
    | some columns =>
      simp only [same, true_and, Option.some.injEq, forall_eq']
      generalize (columns.map fun column => column.name.upper) = names
      by_cases watermark : spec.table.watermark.upper ∈ names
      · by_cases primaryKey : spec.table.primaryKey.upper ∈ names <;> simp [watermark, primaryKey]
      · simp [watermark]
  · simp [same]

theorem tableField_eq_ok_iff {table : Table} :
    required path (tableAt path) (field.map .ofJson) = .ok table ↔ Required IsTable field table :=
  required_ofJson_iff fun _ => tableAt_eq_ok_iff

theorem windowsField_eq_ok_iff {windows : Windows} :
    required path (windowsAt path) (field.map .ofJson) = .ok windows ↔ Required IsRange field windows :=
  required_ofJson_iff fun _ => windowsAt_eq_ok_iff

theorem destinationField_eq_ok_iff {destination : Destination} :
    required path (destinationAt path) (field.map .ofJson) = .ok destination ↔ Required IsDestination field destination :=
  required_ofJson_iff fun _ => destinationAt_eq_ok_iff

theorem specAt_eq_ok_iff {fields : Fields} {spec : Spec} :
    specAt (Document.ofFields fields) = .ok spec ↔ IsSpec (.object fields) spec := by
  constructor
  · intro read
    unfold specAt at read
    simp only [Document.entry?_ofFields] at read
    split at read
    · rename_i ofTable ofWindows ofDestination ofColumns ofCapture
      obtain ⟨same, unbroken⟩ := Checked.ensure_eq_ok_iff.mp read
      cases same
      obtain ⟨idField, listed⟩ := specRule_eq_none_iff.mp unbroken
      obtain ⟨columns, sound⟩ := columns_eq_ok_iff.mp ofColumns
      refine ⟨tableField_eq_ok_iff.mp ofTable, windowsField_eq_ok_iff.mp ofWindows, destinationField_eq_ok_iff.mp ofDestination,
        columns, optionalCapture_eq_ok_iff.mp ofCapture, idField, ?_⟩
      intro enumerated given
      obtain ⟨present, distinct⟩ := columnsRule_eq_none_iff.mp (sound enumerated given)
      obtain ⟨watermark, primaryKey⟩ := listed enumerated given
      exact ⟨present, distinct, watermark, primaryKey⟩
    · cases read
  · intro stated
    have columns := fun path => (@columns_eq_ok_iff path _ _).mpr ⟨stated.columns, fun found given =>
      columnsRule_eq_none_iff.mpr ⟨(stated.enumerated found given).present, (stated.enumerated found given).distinct⟩⟩
    have unbroken : specRule spec = none := specRule_eq_none_iff.mpr ⟨stated.idField, fun found given =>
      ⟨(stated.enumerated found given).watermark, (stated.enumerated found given).primaryKey⟩⟩
    simp only [specAt, Document.entry?_ofFields, tableField_eq_ok_iff.mpr stated.table,
      windowsField_eq_ok_iff.mpr stated.windows, destinationField_eq_ok_iff.mpr stated.destination, columns]
    split
    · rename_i ofTable ofWindows ofDestination ofColumns ofCapture
      cases ofTable
      cases ofWindows
      cases ofDestination
      cases ofColumns
      cases ofCapture.symm.trans (optionalCapture_eq_ok_iff.mpr stated.capture)
      exact Checked.ensure_eq_ok_iff.mpr ⟨rfl, unbroken⟩
    · rename_i broken
      exact (broken _ _ _ _ _ rfl rfl rfl rfl (optionalCapture_eq_ok_iff.mpr stated.capture)).elim

end Spec.Validation

namespace Json

def hasNoHalf : Json → Bool
  | .text t => !t.any Utf8.isHalf
  | _ => true

def Whole (document : Json) : Prop := every hasNoHalf document

instance : DecidablePred Whole := fun document => inferInstanceAs (Decidable (every hasNoHalf document = true))

end Json

namespace Document

theorem mem_ofItems {items : List Json} {document : Document} (member : document ∈ ofItems items) :
    ∃ item ∈ items, document = ofJson item := by
  induction items with
  | nil => cases member
  | cons item rest ih =>
    rcases List.mem_cons.mp member with rfl | member
    · exact ⟨item, List.mem_cons_self .., rfl⟩
    · obtain ⟨other, present, same⟩ := ih member
      exact ⟨other, List.mem_cons_of_mem _ present, same⟩

theorem mem_ofFields {fields : Fields} {entry : Document × Document} (member : entry ∈ ofFields fields) :
    ∃ field ∈ fields, entry.2 = ofJson field.2 := by
  induction fields with
  | nil => cases member
  | cons field rest ih =>
    rcases List.mem_cons.mp member with rfl | member
    · exact ⟨field, List.mem_cons_self .., rfl⟩
    · obtain ⟨other, present, same⟩ := ih member
      exact ⟨other, List.mem_cons_of_mem _ present, same⟩

theorem whole_ofJson {document : Json} (whole : document.Whole) : (ofJson document).Whole := by
  induction document using Json.induct with
  | null | bool | int | double => exact nofun
  | text t =>
    intro text within
    cases within
    simpa [Json.Whole, Json.every, Json.hasNoHalf] using whole
  | list items ih =>
    intro text within
    cases within with
    | item member inside =>
      obtain ⟨item, present, rfl⟩ := mem_ofItems member
      exact ih item present ((Json.every_list.mp whole).2 item present) text inside
  | object fields ih =>
    intro text within
    cases within with
    | value member inside =>
      obtain ⟨field, present, same⟩ := mem_ofFields member
      rw [same] at inside
      exact ih field present ((Json.every_object.mp whole).2 field present) text inside

end Document

namespace Spec

open Format

def Refuses (document : Document) (kind : FailureKind) : Prop :=
  ∀ path, ∃ failure, (ofDocument document).mapError (SpecFault.stopped path) = .error (.failure failure) ∧ failure.kind = kind

theorem refuses_of_noMapping {document : Document} {given : Text} (refused : ofDocument document = .error (.noMapping given)) :
    Refuses document .specMalformed := by
  intro path
  rw [refused]
  exact ⟨_, rfl, rfl⟩

theorem refuses_of_invalid {document : Document} {first : Issue} {count : Nat}
    (refused : ofDocument document = .error (.invalid first count)) : Refuses document .specInvalid := by
  intro path
  rw [refused]
  exact ⟨_, rfl, rfl⟩

theorem Refuses.unique {document : Document} {one other : FailureKind} (first : Refuses document one)
    (second : Refuses document other) : one = other := by
  obtain ⟨_, told, rfl⟩ := first none
  obtain ⟨_, again, rfl⟩ := second none
  cases told.symm.trans again
  rfl

theorem not_refuses_of_ok {document : Document} {spec : Spec} {kind : FailureKind} (read : ofDocument document = .ok spec) :
    ¬Refuses document kind := by
  intro refuses
  obtain ⟨_, told, -⟩ := refuses none
  rw [read] at told
  cases told

theorem ofDocument_eq_ok_iff {document : Json} {spec : Spec} :
    ofDocument (.ofJson document) = .ok spec ↔ IsSpec document spec := by
  constructor
  · intro read
    cases document with
    | object fields => exact Validation.specAt_eq_ok_iff.mp (mapError_eq_ok_iff.mp read)
    | _ => cases read
  · intro stated
    obtain ⟨fields, rfl⟩ := stated.table.object
    exact mapError_eq_ok_iff.mpr (Validation.specAt_eq_ok_iff.mpr stated)

theorem malformed_of_not_isObject {document : Json} (other : ¬document.isObject) :
    Refuses (.ofJson document) .specMalformed := by
  cases document with
  | object => exact absurd rfl other
  | _ => exact refuses_of_noMapping rfl

theorem outcome_of_object {document : Json} (whole : document.Whole) (object : document.isObject) :
    (∃ spec, ofDocument (.ofJson document) = .ok spec) ∨ Refuses (.ofJson document) .specInvalid := by
  cases outcome : ofDocument (.ofJson document) with
  | ok spec => exact .inl ⟨spec, rfl⟩
  | error fault =>
    cases document with
    | object fields =>
      obtain ⟨_, _, rfl⟩ := invalid_of_whole (Document.whole_ofJson whole) outcome
      exact .inr (refuses_of_invalid outcome)
    | _ => cases object

-- A document is malformed when it is no object. Any other states a specification,
-- which is then the one that it is read as, or it is invalid.
theorem format_of_document {document : Json} (whole : document.Whole) :
    (Refuses (.ofJson document) .specMalformed ↔ ¬document.isObject) ∧
      (∀ spec, ofDocument (.ofJson document) = .ok spec ↔ IsSpec document spec) ∧
      (Refuses (.ofJson document) .specInvalid ↔ document.isObject ∧ ¬∃ spec, IsSpec document spec) := by
  refine ⟨?_, fun spec => ofDocument_eq_ok_iff, ?_⟩
  · constructor
    · intro malformed object
      rcases outcome_of_object whole object with ⟨spec, read⟩ | invalid
      · exact not_refuses_of_ok read malformed
      · cases malformed.unique invalid
    · exact malformed_of_not_isObject
  · constructor
    · intro invalid
      refine ⟨?_, ?_⟩
      · by_contra other
        cases invalid.unique (malformed_of_not_isObject other)
      · intro stated
        obtain ⟨spec, stated⟩ := stated
        exact not_refuses_of_ok (ofDocument_eq_ok_iff.mpr stated) invalid
    · intro held
      obtain ⟨object, none⟩ := held
      rcases outcome_of_object whole object with ⟨spec, read⟩ | invalid
      · exact absurd ⟨spec, ofDocument_eq_ok_iff.mp read⟩ none
      · exact invalid

def unusualDocument : Json := .object [
  ("cdc", .object [("update_handling", .text "upsert"), ("delete_handling", .text "")]),
  ("table", .object [
    ("schema_name", .null), ("name", .text "Item"), ("schema", .text "S"), ("description", .null),
    ("primary_key", .text "Id"), ("cdc_key", .text "Changed")]),
  ("range", .object [("default", .null), ("options", .list [.text "5m", .text "05m", .text "0m"])]),
  ("elasticsearch", .object [("index", .text " i"), ("id_field", .text "Id"), ("mapping", .object [("a", .null)])]),
  ("columns", .list [
    .object [("name", .text "ID"), ("type", .null), ("nullable", .text "oFF")],
    .object [("nullable", .double (.finite false 4503599627370496 (-52))), ("name", .text "changed"), ("type", .text "")],
    .object [("name", .text "x"), ("nullable", .int 1)]])]

def nullDocument : Json := .object [
  ("cdc", .null),
  ("table", .object [
    ("name", .text "Item"), ("schema", .text "S"), ("primary_key", .text "Id"), ("cdc_key", .text "Changed")]),
  ("range", .object [("options", .list [.text "5m"])]),
  ("elasticsearch", .object [("index", .text "i"), ("id_field", .text "Id")])]

theorem format_of_samples : (unusualDocument.Whole ∧ ∃ spec, IsSpec unusualDocument spec) ∧
    nullDocument.Whole ∧ ¬∃ spec, IsSpec nullDocument spec := by
  have unusual : unusualDocument.Whole := by decide +kernel
  have null : nullDocument.Whole := by decide +kernel
  refine ⟨⟨unusual, ?_⟩, null, ?_⟩
  · exact ⟨_, ((format_of_document unusual).2.1 _).mp rfl⟩
  · have refuses : Refuses (.ofJson nullDocument) .specInvalid := fun _ => ⟨_, rfl, rfl⟩
    exact ((format_of_document null).2.2.mp refuses).2

end Spec

end ChangeCapture
