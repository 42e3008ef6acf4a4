import ChangeCapture.Proofs.Files.Content
import ChangeCapture.Proofs.Files.Tree
import ChangeCapture.Proofs.Spec.Sample
import ChangeCapture.Proofs.Yaml.Word
import ChangeCapture.Spec.Loading
import ChangeCapture.Spec.Template

namespace ChangeCapture.Spec.Template

open Yaml

variable {upper lower : Text}

def word (text : Text) : Yaml.Tree := .scalar (.plain text)

def column (name type nullable : Text) : Yaml.Tree :=
  .mapping [("name", word name), ("type", word type), ("nullable", word nullable)]

def tableTree (upper lower : Text) : Yaml.Tree := .mapping [
  ("name", word upper), ("schema", word "CDC_TEST"), ("primary_key", word "ID"), ("cdc_key", word "UPDATED_AT"),
  ("description", .scalar (.quoted ("CDC table for " ++ lower)))]

def columnsTree : Yaml.Tree := .list [
  column "ID" "NUMBER" "false", column "NAME" "VARCHAR2(100)" "true", column "UPDATED_AT" "TIMESTAMP" "false"]

def mappingTree : Yaml.Tree := .mapping [("dynamic", word "strict"), ("properties", .mapping [
  ("ID", .mapping [("type", word "long")]), ("NAME", .mapping [("type", word "keyword")]),
  ("UPDATED_AT", .mapping [("type", word "date")])])]

def destinationTree (lower : Text) : Yaml.Tree := .mapping [
  ("index", word lower), ("id_field", word "ID"), ("mapping", mappingTree)]

def windowsTree : Yaml.Tree := .mapping [
  ("default", word "5m"), ("options", .list [word "5m", word "15m", word "30m", word "60m"])]

def captureTree : Yaml.Tree := .mapping [
  ("mode", word "timestamp"), ("delete_handling", word "ignore"), ("update_handling", word "upsert")]

def tree (upper lower : Text) : Yaml.Tree := .mapping [
  ("table", tableTree upper lower), ("columns", columnsTree), ("elasticsearch", destinationTree lower),
  ("range", windowsTree), ("cdc", captureTree)]

-- The lines of the template: a comment, and its parts with blank lines between them.

def part (key : Text) (value : Yaml.Tree) : List Line := Tree.entry 0 0 key value ++ [.blank]

def heading (upper : Text) : Line := .comment (" " ++ upper ++ " CDC Specification")

def layout (upper lower : Text) : List Line :=
  heading upper :: .blank :: (part "table" (tableTree upper lower) ++ part "columns" columnsTree ++
    part "elasticsearch" (destinationTree lower) ++ part "range" windowsTree ++ Tree.entry 0 0 "cdc" captureTree)

theorem filled_layout : (layout upper lower).filter Layout.isFilled = (tree upper lower).lines 0 0 := by rfl

def spec (upper lower : Text) : Spec where
  table := ⟨upper, "CDC_TEST", "ID", "UPDATED_AT", some ("CDC table for " ++ lower)⟩
  windows := ⟨["5m", "15m", "30m", "60m"], some "5m"⟩
  destination := ⟨lower, "ID", some [(.text "dynamic", .text "strict"), (.text "properties", .mapping [
    (.text "ID", .mapping [(.text "type", .text "long")]), (.text "NAME", .mapping [(.text "type", .text "keyword")]),
    (.text "UPDATED_AT", .mapping [(.text "type", .text "date")])])]⟩
  columns := some [⟨"ID", some "NUMBER", false⟩, ⟨"NAME", some "VARCHAR2(100)", true⟩, ⟨"UPDATED_AT", some "TIMESTAMP", false⟩]
  capture := .standard

open Validation

theorem columns_read (upper lower : Text) : optional (fun value => Checked.ensure (eachAt ["columns"] columnAt value) ["columns"] columnsRule)
    (some columnsTree.document) = .ok (spec upper lower).columns := by rfl

theorem windows_read (upper lower : Text) : windowsAt ["range"] windowsTree.document = .ok (spec upper lower).windows := by rfl

theorem capture_read (upper lower : Text) : captureAt ["cdc"] captureTree.document = .ok (spec upper lower).capture := by rfl

theorem identifierAt_text {path : List Text} {name : Text} (accepted : Identifier.accepts name) :
    identifierAt path (some (.text name)) = .ok name := by
  change Checked.ensure (.ok name) path identifierRule = .ok name
  simp only [Checked.ensure, identifierRule, accepted, if_true]

theorem table_read (accepted : Identifier.accepts upper) (isText : (Leaf.plain upper).document = .text upper) :
    tableAt ["table"] (tableTree upper lower).document = .ok (spec upper lower).table := by
  have told : (tableTree upper lower).document = .mapping [(.text "name", (Leaf.plain upper).document), (.text "schema", .text "CDC_TEST"),
    (.text "primary_key", .text "ID"), (.text "cdc_key", .text "UPDATED_AT"),
    (.text "description", .text ("CDC table for " ++ lower))] := by rfl
  rw [told, isText]
  unfold tableAt
  dsimp only [entriesAt]
  rw [show Document.entry? _ "name" = some (.text upper) from rfl, identifierAt_text accepted]
  rfl

theorem destination_read (upper : Text) (visible : lower.isBlank = false) (isText : (Leaf.plain lower).document = .text lower) :
    destinationAt ["elasticsearch"] (destinationTree lower).document = .ok (spec upper lower).destination := by
  have told : (destinationTree lower).document = .mapping [(.text "index", (Leaf.plain lower).document), (.text "id_field", .text "ID"),
    (.text "mapping", mappingTree.document)] := by rfl
  rw [told, isText]
  have rule : indexRule lower = none := by rw [indexRule, visible, if_neg Bool.false_ne_true]
  unfold destinationAt
  dsimp only [entriesAt]
  rw [show Document.entry? _ "index" = some (.text lower) from rfl, show Document.entry? _ "mapping" = some mappingTree.document from rfl]
  simp only [required, textAt, Checked.ensure, rule]
  rfl

theorem ofDocument_tree (accepted : Identifier.accepts upper) (visible : lower.isBlank = false)
    (ofUpper : (Leaf.plain upper).document = .text upper) (ofLower : (Leaf.plain lower).document = .text lower) :
    ofDocument (tree upper lower).document = .ok (spec upper lower) := by
  have told : (tree upper lower).document = .mapping [(.text "table", (tableTree upper lower).document),
    (.text "columns", columnsTree.document), (.text "elasticsearch", (destinationTree lower).document),
    (.text "range", windowsTree.document), (.text "cdc", captureTree.document)] := by rfl
  rw [told]
  unfold ofDocument specAt
  dsimp only
  rw [show Document.entry? _ "table" = some (tableTree upper lower).document from rfl,
    show Document.entry? _ "range" = some windowsTree.document from rfl,
    show Document.entry? _ "elasticsearch" = some (destinationTree lower).document from rfl,
    show Document.entry? _ "columns" = some columnsTree.document from rfl,
    show Document.entry? _ "cdc" = some captureTree.document from rfl, columns_read upper lower]
  simp only [required, table_read accepted ofUpper, destination_read upper visible ofLower,
    windows_read upper lower, capture_read upper lower]
  rfl

theorem shown (upper lower : Text) : (lines upper lower).flatMap (fun line => line ++ [.char '\n']) = Layout.text (layout upper lower) := by
  have columns : columns.flatMap (fun line => line ++ [.char '\n']) = Layout.text (part "columns" columnsTree) := by decide +kernel
  have windows : windows.flatMap (fun line => line ++ [.char '\n']) = Layout.text (part "range" windowsTree) := by decide +kernel
  have capture : capture.flatMap (fun line => line ++ [.char '\n']) = Layout.text (Tree.entry 0 0 "cdc" captureTree) := by decide +kernel
  have table : (table upper lower).flatMap (fun line => line ++ [.char '\n']) =
      Layout.text (heading upper :: .blank :: part "table" (tableTree upper lower)) := by rfl
  have destination : (destination lower).flatMap (fun line => line ++ [.char '\n']) =
      Layout.text (part "elasticsearch" (destinationTree lower)) := by rfl
  rw [lines, List.flatMap_append, List.flatMap_append, List.flatMap_append, List.flatMap_append, table, columns, destination, windows, capture]
  simp only [layout, Layout.text, List.flatMap_append, List.flatMap_cons, List.append_assoc]

theorem writable_tree (ofUpper : Identifier.isName upper) (ofLower : Identifier.isName lower) : (tree upper lower).isWritable := by
  have upperWord := isWord_of_isName ofUpper
  have lowerWord := isWord_of_isName ofLower
  have description : (Leaf.quoted ("CDC table for " ++ lower)).Fits := by
    refine List.all_eq_true.mpr (List.forall_mem_append.mpr ⟨by decide +kernel, fun c member => ?_⟩)
    exact isInner_quoted_of_isNamePart (Identifier.parts_of_isName ofLower c member)
  have upperFits : decide (Leaf.plain upper).Fits = true := decide_eq_true upperWord
  have lowerFits : decide (Leaf.plain lower).Fits = true := decide_eq_true lowerWord
  have table : (tableTree upper lower).isWritable := by
    simp only [tableTree, word, Tree.isWritable, Tree.areEntriesWritable, upperFits, decide_eq_true description, List.isEmpty_cons]
    decide +kernel
  have destination : (destinationTree lower).isWritable := by
    simp only [destinationTree, word, Tree.isWritable, Tree.areEntriesWritable, lowerFits, List.isEmpty_cons]
    decide +kernel
  have columns : columnsTree.isWritable := by decide +kernel
  have windows : windowsTree.isWritable := by decide +kernel
  have capture : captureTree.isWritable := by decide +kernel
  simp only [tree, Tree.isWritable, Tree.areEntriesWritable, table, destination, columns, windows, capture, Bool.and_true, Bool.and_eq_true]
  exact ⟨rfl, by decide +kernel, by decide +kernel, by decide +kernel, by decide +kernel, by decide +kernel⟩

theorem fits_layout (ofUpper : Identifier.isName upper) (writable : (tree upper lower).isWritable) : Layout.Fits (layout upper lower) := by
  have only : Layout.comments (layout upper lower) = [" " ++ upper ++ " CDC Specification"] := by rfl
  have front : ∀ c ∈ Text.ofString " ", isPrintable c ∧ isBreak c = false ∧ c ≠ byteOrderMark := by decide +kernel
  have back : ∀ c ∈ Text.ofString " CDC Specification", isPrintable c ∧ isBreak c = false ∧ c ≠ byteOrderMark := by decide +kernel
  apply Layout.fits_of_shown (by rfl) filled_layout writable nofun
  rw [only, List.forall_mem_singleton]
  refine List.forall_mem_append.mpr ⟨List.forall_mem_append.mpr ⟨front, fun c member => ?_⟩, back⟩
  have part := Identifier.parts_of_isName ofUpper c member
  exact ⟨isPrintable_of_isNamePart part, isBreak_of_isNamePart part, ne_of_isNamePart part rfl⟩

theorem legible_tree (ofUpper : (Leaf.plain upper).isLegible) (ofLower : (Leaf.plain lower).isLegible) : (tree upper lower).isLegible := by
  have described : (Leaf.quoted ("CDC table for " ++ lower)).isLegible = true := by rfl
  have table : (tableTree upper lower).isLegible := by
    simp only [tableTree, word, Tree.isLegible, Tree.areEntriesLegible, ofUpper, described, List.map_cons, List.map_nil]
    decide +kernel
  have destination : (destinationTree lower).isLegible := by
    simp only [destinationTree, word, Tree.isLegible, Tree.areEntriesLegible, ofLower, List.map_cons, List.map_nil]
    decide +kernel
  have columns : columnsTree.isLegible := by decide +kernel
  have windows : windowsTree.isLegible := by decide +kernel
  have capture : captureTree.isLegible := by decide +kernel
  simp only [tree, Tree.isLegible, Tree.areEntriesLegible, table, destination, columns, windows, capture, List.map_cons,
    List.map_nil, Bool.and_true]
  decide +kernel

theorem read_lines (ofUpper : Identifier.isName upper) (ofLower : Identifier.isName lower) (upperLegible : (Leaf.plain upper).isLegible)
    (lowerLegible : (Leaf.plain lower).isLegible) :
    Yaml.read ((lines upper lower).flatMap fun line => line ++ [.char '\n']) = .ok (tree upper lower).document := by
  rw [shown]
  have writable := writable_tree ofUpper ofLower
  exact read_layout (fits_layout ofUpper writable) filled_layout writable (legible_tree upperLegible lowerLegible)

theorem not_return_lines (ofUpper : Identifier.isName upper) (ofLower : Identifier.isName lower) :
    .char '\r' ∉ (lines upper lower).flatMap fun line => line ++ [.char '\n'] := by
  have clean {name : Text} (ofName : Identifier.isName name) : .char '\r' ∉ name :=
    fun member => ne_of_isNamePart (Identifier.parts_of_isName ofName _ member) rfl rfl
  have columns : ∀ line ∈ columns, .char '\r' ∉ line := by decide +kernel
  have windows : ∀ line ∈ windows, .char '\r' ∉ line := by decide +kernel
  have capture : ∀ line ∈ capture, .char '\r' ∉ line := by decide +kernel
  have table : ∀ line ∈ table upper lower, .char '\r' ∉ line := by
    simp only [Template.table, List.forall_mem_cons, List.mem_append, clean ofUpper, clean ofLower, or_false]
    decide +kernel
  have destination : ∀ line ∈ destination lower, .char '\r' ∉ line := by
    simp only [Template.destination, List.forall_mem_cons, List.mem_append, clean ofLower, or_false]
    decide +kernel
  have each : ∀ line ∈ lines upper lower, .char '\r' ∉ line := by
    simp only [lines, List.forall_mem_append]
    exact ⟨⟨⟨⟨table, columns⟩, destination⟩, windows⟩, capture⟩
  intro member
  obtain ⟨line, listed, inside⟩ := List.mem_flatMap.mp member
  rcases List.mem_append.mp inside with written | final
  · exact each line listed written
  · exact absurd final (by decide)

end ChangeCapture.Spec.Template

namespace ChangeCapture.Spec

variable {name : Text} {tree : Tree} {path : Path} {bytes : Bytes}

theorem read_template (ofName : Identifier.isName name) (present : tree.isFile path = .ok true) (held : tree.read path = .ok bytes)
    (written : Utf8.encode (template name) = .ok bytes) (upperLegible : (Yaml.Leaf.plain name.upper).isLegible)
    (lowerLegible : (Yaml.Leaf.plain name.lower).isLegible) :
    read tree path = (ofDocument (Template.tree name.upper name.lower).document >>= checkName path).mapError
      (SpecFault.stopped (some path.toText)) := by
  have upperName := Identifier.isName_upper ofName
  have lowerName := Identifier.isName_lower ofName
  have decoded : Content.textInBlocks bytes = .ok (template name) := by
    rw [Content.textInBlocks, Utf8.decode_of_encode written]
    rfl
  have same : (template name).withLineFeeds = template name :=
    Text.withLineFeeds_of_not_mem (Template.not_return_lines upperName lowerName)
  have parsed := Template.read_lines upperName lowerName upperLegible lowerLegible
  have whole : ofBytes path bytes = (ofDocument (Template.tree name.upper name.lower).document >>= checkName path).mapError
      (SpecFault.stopped (some path.toText)) := by
    unfold ofBytes
    rw [decoded]
    dsimp only
    rw [same, template, parsed]
  unfold read
  rw [present, held]
  exact whole

theorem read_template_of_free (ofName : Identifier.isName name) (short : name.length ≤ Identifier.lengthLimit)
    (present : tree.isFile path = .ok true) (held : tree.read path = .ok bytes) (named : path.name = name.lower ++ ".yaml")
    (written : Utf8.encode (template name) = .ok bytes) (free : name.lower ∉ Yaml.Tag.reserved) :
    read tree path = .ok (Template.spec name.upper name.lower) := by
  have ascii := Identifier.ascii_of_isName ofName
  have upperText := Yaml.Tag.ofPlain_upper ofName free
  have lowerText := Yaml.Tag.ofPlain_lower ofName free
  have accepted : Identifier.accepts name.upper := by
    have clean : .char '\n' ∉ name.upper :=
      fun member => Yaml.ne_of_isNamePart (Identifier.parts_of_isName (Identifier.isName_upper ofName) _ member) rfl rfl
    simp only [Identifier.accepts, Text.withoutFinalBreak_of_not_mem clean, Identifier.isName_upper ofName, Text.length_upper ascii, short,
      decide_true, Bool.and_true]
  obtain ⟨first, rest, same, letter, -⟩ := Identifier.isName_iff.mp (Identifier.isName_lower ofName)
  have visible : name.lower.isBlank = false := by
    rw [same, Text.isBlank, List.all_cons, Identifier.not_isBlank_of_isNamePart (Identifier.isNamePart_of_isNameStart letter)]
    rfl
  have stem : path.stem = name.lower := by
    have point : Text.ofString ".yaml" = .char '.' :: Text.ofString "yaml" := by decide
    rw [Path.stem, named, point, Path.split_of_point (by rw [same]; exact List.cons_ne_nil _ _) (by decide) (by decide)]
  have checked : checkName path (Template.spec name.upper name.lower) = .ok (Template.spec name.upper name.lower) := by
    rw [checkName, if_pos]
    rw [stem]
    exact (Text.lower_upper ascii).symm
  rw [read_template ofName present held written (Yaml.Leaf.isLegible_of_text upperText) (Yaml.Leaf.isLegible_of_text lowerText),
    Template.ofDocument_tree accepted visible (Yaml.Leaf.document_of_text upperText) (Yaml.Leaf.document_of_text lowerText)]
  change (checkName path (Template.spec name.upper name.lower)).mapError _ = _
  rw [checked]
  rfl

-- A word for a truth value or for nothing is not read as a name.
theorem read_template_of_reserved (ofName : Identifier.isName name) (present : tree.isFile path = .ok true) (held : tree.read path = .ok bytes)
    (written : Utf8.encode (template name) = .ok bytes) (reserved : name.lower ∈ Yaml.Tag.reserved) :
    ∃ reason, read tree path = .error reason := by
  have upper : name.upper = name.lower.upper := (Text.upper_lower (Identifier.ascii_of_isName ofName)).symm
  have each : ∀ word ∈ Yaml.Tag.reserved, (Yaml.Leaf.plain word.upper).isLegible ∧ (Yaml.Leaf.plain word).isLegible ∧
      (ofDocument (Template.tree word.upper word).document).toOption.isNone := by decide +kernel
  obtain ⟨upperLegible, lowerLegible, refused⟩ := each name.lower reserved
  rw [← upper] at upperLegible refused
  rw [read_template ofName present held written upperLegible lowerLegible]
  cases told : ofDocument (Template.tree name.upper name.lower).document with
  | ok spec =>
    rw [told] at refused
    cases refused
  | error fault => exact ⟨_, rfl⟩

-- Which names the template can be filled with.
theorem reads_template_iff (ofName : Identifier.isName name) (short : name.length ≤ Identifier.lengthLimit)
    (present : tree.isFile path = .ok true) (held : tree.read path = .ok bytes) (named : path.name = name.lower ++ ".yaml")
    (written : Utf8.encode (template name) = .ok bytes) :
    (∃ spec, read tree path = .ok spec ∧ spec.tableName = name.upper ∧ spec.destination.index = name.lower ∧
      spec.columnNames = some (["ID", "NAME", "UPDATED_AT"] : List Text) ∧ spec.defaultWindow = .ok "5m") ↔ name.lower ∉ Yaml.Tag.reserved := by
  constructor
  · intro loads reserved
    obtain ⟨spec, loaded, -⟩ := loads
    obtain ⟨reason, refused⟩ := read_template_of_reserved ofName present held written reserved
    rw [loaded] at refused
    cases refused
  · intro free
    refine ⟨_, read_template_of_free ofName short present held named written free, ?_, rfl, rfl, rfl⟩
    exact Text.upper_upper (Identifier.ascii_of_isName ofName)

def templateTree (name : Text) : Tree := ⟨[([.given (name.lower ++ ".yaml")], .file (Sample.fileOf (template name)))]⟩

def templatePath (name : Text) : Path := ⟨0, [name.lower ++ ".yaml"]⟩

theorem reads_template_of_orders : Identifier.isName "Orders" ∧ (Text.ofString "Orders").length ≤ Identifier.lengthLimit ∧
    (templateTree "Orders").isFile (templatePath "Orders") = .ok true ∧
    (templateTree "Orders").read (templatePath "Orders") = .ok (Sample.fileOf (template "Orders")) ∧
    (templatePath "Orders").name = Text.lower "Orders" ++ ".yaml" ∧
    Utf8.encode (template "Orders") = .ok (Sample.fileOf (template "Orders")) ∧
    ∃ spec, read (templateTree "Orders") (templatePath "Orders") = .ok spec ∧ spec.tableName = Text.upper "Orders" ∧
      spec.destination.index = Text.lower "Orders" ∧ spec.columnNames = some (["ID", "NAME", "UPDATED_AT"] : List Text) ∧
      spec.defaultWindow = .ok "5m" := by
  have present : (templateTree "Orders").isFile (templatePath "Orders") = .ok true := by decide +kernel
  have held : (templateTree "Orders").read (templatePath "Orders") = .ok (Sample.fileOf (template "Orders")) := by rfl
  have written := Sample.encode_fileOf (template "Orders") (by decide +kernel)
  have ofName : Identifier.isName "Orders" := by decide +kernel
  have loads := reads_template_iff ofName (by decide +kernel) present held rfl written
  exact ⟨ofName, by decide +kernel, present, held, rfl, written, loads.mpr (by decide +kernel)⟩

-- The name no is read as a truth value, both as the table's and as the index's.
theorem template_of_no : Identifier.isName "no" ∧ (Text.ofString "no").length ≤ Identifier.lengthLimit ∧
    (templateTree "no").isFile (templatePath "no") = .ok true ∧
    (templateTree "no").read (templatePath "no") = .ok (Sample.fileOf (template "no")) ∧
    (templatePath "no").name = Text.lower "no" ++ ".yaml" ∧ Utf8.encode (template "no") = .ok (Sample.fileOf (template "no")) ∧
    ¬∃ spec, read (templateTree "no") (templatePath "no") = .ok spec := by
  have present : (templateTree "no").isFile (templatePath "no") = .ok true := by decide +kernel
  have held : (templateTree "no").read (templatePath "no") = .ok (Sample.fileOf (template "no")) := by rfl
  have written := Sample.encode_fileOf (template "no") (by decide +kernel)
  refine ⟨by decide +kernel, by decide +kernel, present, held, rfl, written, ?_⟩
  intro loads
  obtain ⟨spec, loaded⟩ := loads
  obtain ⟨reason, refused⟩ := read_template_of_reserved (by decide +kernel) present held written (by decide +kernel)
  rw [loaded] at refused
  cases refused

end ChangeCapture.Spec
