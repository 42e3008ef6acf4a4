import ChangeCapture.Proofs.Spec.Accepted
import ChangeCapture.Proofs.Spec.Token
import ChangeCapture.Proofs.Text.Utf8

namespace ChangeCapture

namespace Document

-- The texts that stand in a document as values, at any depth.
inductive Contains : Document → Text → Prop
  | text {t : Text} : Contains (.text t) t
  | item {items : List Document} {item : Document} {t : Text} : item ∈ items → Contains item t → Contains (.list items) t
  | member {members : List Document} {member : Document} {t : Text} :
    member ∈ members → Contains member t → Contains (.set members) t
  | value {entries : Entries} {entry : Document × Document} {t : Text} :
    entry ∈ entries → Contains entry.2 t → Contains (.mapping entries) t

def Whole (document : Document) : Prop := ∀ text, document.Contains text → ¬text.any Utf8.isHalf

theorem mem_of_entry? {entries : Entries} {key : Text} {value : Document} (found : entry? entries key = some value) :
    ∃ entry ∈ entries, entry.2 = value := by
  obtain ⟨entry, first, same⟩ := Option.map_eq_some_iff.mp found
  exact ⟨entry, List.mem_of_find?_eq_some first, same⟩

theorem Whole.entry {entries : Entries} {key : Text} {value : Document} (whole : (Document.mapping entries).Whole)
    (found : entry? entries key = some value) : value.Whole := by
  obtain ⟨entry, member, rfl⟩ := mem_of_entry? found
  exact fun text within => whole text (.value member within)

end Document

theorem Rule.writable_eq_ok_iff {rule : Rule} :
    rule.writable = .ok () ↔ ∀ value ∈ rule.values, ¬value.2.any Utf8.isHalf := by
  unfold writable
  rw [forM_eq_ok_iff]
  apply forall₂_congr
  intro value _
  rw [map_eq_ok_iff, ← Utf8.exists_encode_iff]
  simp

theorem SpecFault.ofIssues_of_writable {issues : List Issue} (writable : ∀ issue ∈ issues, issue.rule.writable = .ok ()) :
    ∃ first, ofIssues issues = .invalid first issues.length := by
  have each : (issues.forM fun issue => issue.rule.writable) = .ok () := forM_eq_ok_iff.mpr writable
  unfold ofIssues
  rw [each]
  exact ⟨_, rfl⟩

namespace Checked

variable {α β : Type} {part : Checked α} {path : List Text}

-- Whatever a part is refused for can be told.
def Writable (part : Checked α) : Prop := ∀ issue ∈ part.issues, issue.rule.writable = .ok ()

theorem writable_ok (value : α) : Writable (.ok value) := nofun

theorem writable_fail {rule : Rule} (writable : rule.writable = .ok ()) : Writable (fail path rule : Checked α) := by
  intro issue member
  cases List.mem_singleton.mp member
  exact writable

theorem writable_ensure {broken : α → Option Rule} (writable : part.Writable)
    (each : ∀ value rule, part = .ok value → broken value = some rule → rule.writable = .ok ()) :
    (ensure part path broken).Writable := by
  unfold ensure
  split
  · exact writable
  · rename_i value
    split
    · rename_i rule found
      exact writable_fail (each value rule rfl found)
    · exact writable_ok value

theorem writable_map {change : α → β} (writable : part.Writable) : Writable (Except.map change part) := by
  cases part with
  | error issues => exact writable
  | ok value => exact writable_ok _

theorem Writable.of_refused {issues : List Issue} (writable : part.Writable) (refused : part = .error issues) :
    Writable (.error issues : Checked β) := by
  subst refused
  exact writable

theorem writable_all {parts : List (Checked α)} (each : ∀ part ∈ parts, part.Writable) : (all parts).Writable := by
  induction parts with
  | nil => exact writable_ok _
  | cons part rest ih =>
    have first := each part (List.mem_cons_self ..)
    have later := ih fun part member => each part (List.mem_cons_of_mem _ member)
    unfold all
    split
    · exact writable_ok _
    · exact List.forall_mem_append.mpr ⟨first, later⟩

end Checked

namespace Spec.Validation

open Checked

variable {α : Type} {path : List Text} {document : Document} {field : Option Document} {entries : Entries}

theorem writable_textAt (path : List Text) (document : Document) : (textAt path document).Writable := by
  unfold textAt
  split
  · exact writable_ok _
  · split
    · exact writable_ok _
    · exact writable_fail rfl
  · exact writable_fail rfl

theorem noHalf_of_textAt {text : Text} (whole : document.Whole) (read : textAt path document = .ok text) :
    ¬text.any Utf8.isHalf := by
  unfold textAt at read
  split at read
  · cases read
    exact whole _ .text
  · split at read
    · rename_i decoded
      cases read
      exact Utf8.exists_encode_iff.mp ⟨_, Utf8.encode_of_decode decoded⟩
    · cases read
  · cases read

theorem writable_required {read : Document → Checked α} (each : ∀ document, field = some document → (read document).Writable) :
    (required path read field).Writable := by
  cases field with
  | none => exact writable_fail rfl
  | some document => exact each document rfl

theorem writable_optional {read : Document → Checked α} (each : ∀ document, field = some document → (read document).Writable) :
    (optional read field).Writable := by
  unfold optional
  split
  · exact writable_ok _
  · exact writable_ok _
  · exact writable_map (each _ rfl)

theorem writable_itemsAt (path : List Text) (document : Document) : (itemsAt path document).Writable := by
  unfold itemsAt
  split
  · exact writable_ok _
  · exact writable_ok _
  · exact writable_fail rfl

theorem whole_of_itemsAt {items : List Document} (whole : document.Whole) (read : itemsAt path document = .ok items) :
    ∀ item ∈ items, item.Whole := by
  intro item member text within
  cases document with
  | list | set =>
    cases read
    first
      | exact whole text (.item member within)
      | exact whole text (.member member within)
  | _ => cases read

theorem writable_eachAt {read : List Text → Document → Checked α} (whole : document.Whole)
    (each : ∀ path item, item.Whole → (read path item).Writable) : (eachAt path read document).Writable := by
  unfold eachAt
  split
  · rename_i refused
    exact (writable_itemsAt path document).of_refused refused
  · rename_i items read
    apply writable_all
    intro part member
    obtain ⟨index, inside, rfl⟩ := List.mem_mapIdx.mp member
    exact each _ _ (whole_of_itemsAt whole read _ (List.getElem_mem inside))

theorem noHalf_of_eachAt {texts : List Text} (whole : document.Whole) (read : eachAt path textAt document = .ok texts) :
    ∀ text ∈ texts, ¬text.any Utf8.isHalf := by
  unfold eachAt at read
  split at read
  · cases read
  · rename_i items listed
    have same := Checked.all_eq_ok_iff.mp read
    intro text member
    have part : (.ok text : Checked Text) ∈ texts.map .ok := List.mem_map_of_mem member
    rw [← same] at part
    obtain ⟨index, inside, parsed⟩ := List.mem_mapIdx.mp part
    exact noHalf_of_textAt (whole_of_itemsAt whole listed _ (List.getElem_mem inside)) parsed

theorem noHalf_of_optional {text : Text} (whole : ∀ document, field = some document → document.Whole)
    (read : optional (textAt path) field = .ok (some text)) : ¬text.any Utf8.isHalf := by
  unfold optional at read
  split at read
  · cases read
  · cases read
  · obtain ⟨_, parsed, same⟩ := map_eq_ok_iff.mp read
    cases same
    exact noHalf_of_textAt (whole _ rfl) parsed

theorem writable_entriesAt (path : List Text) (model : Text) (document : Document) :
    (entriesAt path model document).Writable := by
  unfold entriesAt
  split
  · exact writable_ok _
  · exact writable_fail rfl

theorem whole_of_entriesAt {model : Text} (whole : document.Whole) (read : entriesAt path model document = .ok entries) :
    (Document.mapping entries).Whole := by
  unfold entriesAt at read
  split at read
  · cases read
    exact whole
  · cases read

theorem writable_identifierAt (whole : ∀ document, field = some document → document.Whole) :
    (identifierAt path field).Writable := by
  apply writable_ensure
  · exact writable_required fun _ _ => writable_textAt _ _
  · intro value rule read broken
    obtain ⟨document, given, parsed⟩ := required_eq_ok_iff.mp read
    unfold identifierRule at broken
    split at broken
    · cases broken
    · cases broken
      have noHalf := noHalf_of_textAt (whole document given) parsed
      exact Rule.writable_eq_ok_iff.mpr (by simpa [Rule.values] using noHalf)

theorem writable_wholeAt (path : List Text) (isWide : Int → Bool) (n : Int) : (wholeAt path isWide n).Writable := by
  unfold wholeAt
  split
  · exact writable_ok _
  · split
    · exact writable_ok _
    · split
      · exact writable_fail rfl
      · exact writable_fail rfl

theorem writable_wordAt (path : List Text) (text : Text) : (wordAt path text).Writable := by
  unfold wordAt
  split
  · exact writable_ok _
  · exact writable_fail rfl

theorem writable_booleanAt (path : List Text) (document : Document) : (booleanAt path document).Writable := by
  unfold booleanAt
  split
  · exact writable_ok _
  · exact writable_wholeAt _ _ _
  · split
    · exact writable_wholeAt _ _ _
    · exact writable_fail rfl
  · split
    · exact writable_fail rfl
    · exact writable_wordAt _ _
  · split
    · exact writable_wordAt _ _
    · exact writable_fail rfl
  · exact writable_fail rfl

theorem writable_columnAt (path : List Text) (whole : document.Whole) : (columnAt path document).Writable := by
  unfold columnAt
  split
  · rename_i refused
    exact (writable_entriesAt _ _ _).of_refused refused
  · rename_i entries read
    have inside := whole_of_entriesAt whole read
    dsimp only
    split
    · exact writable_ok _
    · refine List.forall_mem_append.mpr ⟨List.forall_mem_append.mpr ⟨?_, ?_⟩, ?_⟩
      · exact writable_identifierAt fun _ => inside.entry
      · exact writable_optional fun _ _ => writable_textAt _ _
      · split
        · exact writable_ok true
        · exact writable_booleanAt _ _

theorem writable_tableAt (path : List Text) (whole : document.Whole) : (tableAt path document).Writable := by
  unfold tableAt
  split
  · rename_i refused
    exact (writable_entriesAt _ _ _).of_refused refused
  · rename_i entries read
    have inside := whole_of_entriesAt whole read
    dsimp only
    split
    · exact writable_ok _
    · refine List.forall_mem_append.mpr ⟨List.forall_mem_append.mpr ⟨List.forall_mem_append.mpr
        ⟨List.forall_mem_append.mpr ⟨?_, ?_⟩, ?_⟩, ?_⟩, ?_⟩
      · exact writable_identifierAt fun _ => inside.entry
      · apply writable_identifierAt
        intro document given
        cases first : Document.entry? entries "schema" with
        | none =>
          rw [first] at given
          exact inside.entry given
        | some other =>
          rw [first] at given
          cases given
          exact inside.entry first
      · exact writable_identifierAt fun _ => inside.entry
      · exact writable_identifierAt fun _ => inside.entry
      · exact writable_optional fun _ _ => writable_textAt _ _

theorem writable_optionsAt (whole : ∀ document, field = some document → document.Whole) :
    (ensure (required path (eachAt path textAt) field) path optionsRule).Writable := by
  apply writable_ensure
  · exact writable_required fun document given => writable_eachAt (whole document given) fun _ _ _ => writable_textAt _ _
  · intro options rule read broken
    obtain ⟨document, given, parsed⟩ := required_eq_ok_iff.mp read
    unfold optionsRule at broken
    split at broken
    · cases broken
      rfl
    · split at broken
      · rename_i window found
        cases broken
        have noHalf := noHalf_of_eachAt (whole document given) parsed window (List.mem_of_find?_eq_some found)
        exact Rule.writable_eq_ok_iff.mpr (by simpa [Rule.values] using noHalf)
      · split at broken
        · cases broken
          rfl
        · cases broken

theorem writable_windowsAt (path : List Text) (whole : document.Whole) : (windowsAt path document).Writable := by
  unfold windowsAt
  split
  · rename_i refused
    exact (writable_entriesAt _ _ _).of_refused refused
  · rename_i entries read
    have inside := whole_of_entriesAt whole read
    dsimp only
    split
    · rename_i options pinned _ ofDefault
      apply writable_ensure (writable_ok _)
      intro windows rule same broken
      cases same
      unfold defaultRule at broken
      split at broken
      · cases broken
      · rename_i window given
        split at broken
        · cases broken
        · cases broken
          cases given
          have noHalf := noHalf_of_optional (fun _ => inside.entry) ofDefault
          have name : ¬("range.default" : Text).any Utf8.isHalf := by decide
          exact Rule.writable_eq_ok_iff.mpr (List.forall_mem_cons.mpr ⟨noHalf, List.forall_mem_singleton.mpr name⟩)
    · refine List.forall_mem_append.mpr ⟨?_, ?_⟩
      · exact writable_optionsAt fun _ => inside.entry
      · exact writable_optional fun _ _ => writable_textAt _ _

theorem writable_mappingAt (path : List Text) (document : Document) : (mappingAt path document).Writable := by
  unfold mappingAt
  split
  · rename_i entries
    have keys : Writable (all (entries.map fun entry =>
        textAt (path ++ ([entry.1.pathStep, "[key]"] : List Text)) entry.1)) := by
      apply writable_all
      intro part member
      obtain ⟨entry, _, rfl⟩ := List.mem_map.mp member
      exact writable_textAt _ _
    unfold keyed
    split
    · exact writable_ok _
    · rename_i refused
      exact keys.of_refused refused
  · exact writable_fail rfl

theorem writable_destinationAt (path : List Text) (whole : document.Whole) : (destinationAt path document).Writable := by
  unfold destinationAt
  split
  · rename_i refused
    exact (writable_entriesAt _ _ _).of_refused refused
  · rename_i entries read
    have inside := whole_of_entriesAt whole read
    dsimp only
    split
    · exact writable_ok _
    · refine List.forall_mem_append.mpr ⟨List.forall_mem_append.mpr ⟨?_, ?_⟩, ?_⟩
      · apply writable_ensure (writable_required fun _ _ => writable_textAt _ _)
        intro index rule _ broken
        unfold indexRule at broken
        split at broken
        · cases broken
          rfl
        · cases broken
      · exact writable_identifierAt fun _ => inside.entry
      · exact writable_optional fun _ _ => writable_mappingAt _ _

theorem writable_fixed {standard : Text} {broken : Text → Rule} (whole : ∀ document, field = some document → document.Whole)
    (admitted : ¬standard.any Utf8.isHalf) (quotes : ∀ text, (broken text).values = [(("value" : Text), text)]) :
    Writable (ensure (match field with
      | none => (.ok standard : Checked Text)
      | some value => textAt path value) path fun value => if value = standard then none else some (broken value)) := by
  apply writable_ensure
  · split
    · exact writable_ok _
    · exact writable_textAt _ _
  · intro text rule read found
    split at found
    · cases found
    · cases found
      apply Rule.writable_eq_ok_iff.mpr
      rw [quotes]
      split at read
      · cases read
        simpa using admitted
      · rename_i document
        have noHalf := noHalf_of_textAt (whole document rfl) read
        simpa using noHalf

theorem writable_captureAt (path : List Text) (whole : document.Whole) : (captureAt path document).Writable := by
  unfold captureAt
  split
  · rename_i refused
    exact (writable_entriesAt _ _ _).of_refused refused
  · rename_i entries read
    have inside := whole_of_entriesAt whole read
    dsimp only
    split
    · exact writable_ok _
    · refine List.forall_mem_append.mpr ⟨List.forall_mem_append.mpr ⟨?_, ?_⟩, ?_⟩
      · exact writable_fixed (fun _ => inside.entry) (by decide) fun _ => rfl
      · split
        · exact writable_ok Capture.standard.deleteHandling
        · exact writable_textAt _ _
      · exact writable_fixed (fun _ => inside.entry) (by decide) fun _ => rfl

theorem noHalf_of_accepts {name : Text} (accepted : Identifier.accepts name) : ¬name.any Utf8.isHalf := by
  have ascii := Identifier.ascii_of_accepts accepted
  intro halved
  obtain ⟨c, member, half⟩ := List.any_eq_true.mp halved
  have small := CodePoint.isAscii_iff.mp (List.all_eq_true.mp ascii c member)
  cases c with
  | char => cases half
  | surrogate offset =>
    have above := (CodePoint.toNat_surrogate offset).1
    omega

theorem writable_of_specRule {spec : Spec} {rule : Rule} (idField : Identifier.accepts spec.destination.idField)
    (primaryKey : Identifier.accepts spec.table.primaryKey) (watermark : Identifier.accepts spec.table.watermark)
    (broken : specRule spec = some rule) : rule.writable = .ok () := by
  have names : ∀ name ∈ (["elasticsearch.id_field", "table.cdc_key", "table.primary_key"] : List Text),
      ¬name.any Utf8.isHalf := by decide
  have fieldName := names "elasticsearch.id_field" (by simp)
  have watermarkName := names "table.cdc_key" (by simp)
  have keyName := names "table.primary_key" (by simp)
  have idField := noHalf_of_accepts idField
  have primaryKey := noHalf_of_accepts primaryKey
  have watermark := noHalf_of_accepts watermark
  apply Rule.writable_eq_ok_iff.mpr
  unfold specRule at broken
  split at broken
  · cases broken
    exact List.forall_mem_cons.mpr ⟨fieldName, List.forall_mem_cons.mpr ⟨idField, List.forall_mem_singleton.mpr primaryKey⟩⟩
  · split at broken
    · cases broken
    · dsimp only at broken
      split at broken
      · cases broken
        exact List.forall_mem_cons.mpr ⟨watermarkName, List.forall_mem_singleton.mpr watermark⟩
      · split at broken
        · cases broken
          exact List.forall_mem_cons.mpr ⟨keyName, List.forall_mem_singleton.mpr primaryKey⟩
        · cases broken

theorem writable_specAt (whole : (Document.mapping entries).Whole) : (specAt entries).Writable := by
  unfold specAt
  dsimp only
  split
  · rename_i ofTable _ ofDestination _ _
    obtain ⟨_, -, table⟩ := required_eq_ok_iff.mp ofTable
    obtain ⟨_, -, destination⟩ := required_eq_ok_iff.mp ofDestination
    obtain ⟨-, -, primaryKey, watermark⟩ := accepts_of_tableAt table
    apply writable_ensure (writable_ok _)
    intro spec rule same broken
    cases same
    exact writable_of_specRule (accepts_of_destinationAt destination) primaryKey watermark broken
  · refine List.forall_mem_append.mpr ⟨List.forall_mem_append.mpr ⟨List.forall_mem_append.mpr
      ⟨List.forall_mem_append.mpr ⟨?_, ?_⟩, ?_⟩, ?_⟩, ?_⟩
    · exact writable_required fun _ given => writable_tableAt _ (whole.entry given)
    · exact writable_required fun _ given => writable_windowsAt _ (whole.entry given)
    · exact writable_required fun _ given => writable_destinationAt _ (whole.entry given)
    · apply writable_optional
      intro document given
      apply writable_ensure
      · exact writable_eachAt (whole.entry given) fun _ _ inside => writable_columnAt _ inside
      · intro columns rule _ broken
        unfold columnsRule at broken
        split at broken
        · cases broken
          rfl
        · split at broken
          · cases broken
            rfl
          · cases broken
    · split
      · exact writable_ok Capture.standard
      · rename_i given
        exact writable_captureAt _ (whole.entry given)

end Spec.Validation

-- So a mapping whose texts can all be written is never refused without being told why.
theorem Spec.invalid_of_whole {entries : Entries} {fault : SpecFault} (whole : (Document.mapping entries).Whole)
    (refused : Spec.ofDocument (.mapping entries) = .error fault) : ∃ first count, fault = .invalid first count := by
  simp only [Spec.ofDocument] at refused
  cases parsed : Spec.Validation.specAt entries with
  | ok spec =>
    rw [parsed] at refused
    cases refused
  | error issues =>
    rw [parsed] at refused
    cases refused
    have writable : Checked.Writable (.error issues : Checked Spec) :=
      (Spec.Validation.writable_specAt whole).of_refused parsed
    obtain ⟨first, told⟩ := SpecFault.ofIssues_of_writable writable
    exact ⟨first, issues.length, told⟩

end ChangeCapture
