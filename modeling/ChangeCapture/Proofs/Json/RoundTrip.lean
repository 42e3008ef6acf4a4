import ChangeCapture.Proofs.Json.Number
import ChangeCapture.Proofs.Json.Storable

namespace ChangeCapture.Json

variable {text rest : Text} {opened bound depth : Nat} {c : CodePoint} {document : Json} {items : List Json} {fields : Fields}

theorem unit?_hex {n : Nat} (small : n < 65536) :
    unit? (Text.hexDigit (n / 16 / 16 / 16 % 16)) (Text.hexDigit (n / 16 / 16 % 16)) (Text.hexDigit (n / 16 % 16))
      (Text.hexDigit (n % 16)) = some n := by
  have digits : ∀ m, (Text.hexDigit (m % 16)).hexDigit? = some (m % 16) :=
    fun m => Text.hexDigit?_hexDigit (Nat.mod_lt m (by decide))
  simp only [unit?, digits, Option.bind_eq_bind, Option.bind_some]
  exact congrArg some (by omega)

theorem readText_unit {a b c d next : CodePoint} {n : Nat} (spelled : unit? a b c d = some n) (whole : ¬isHighHalf n) :
    readText opened ('\\' :: 'u' :: a :: b :: c :: d :: next :: rest) =
      (readText opened (next :: rest)).map (push (.ofNat n)) := by
  rw [readText]
  simp only [if_false, if_true, CodePoint.char.injEq, Char.reduceEq, spelled]
  split
  · rw [if_neg fun both => whole both.1]
  · rfl

theorem readText_escape {mark c : CodePoint} (known : simpleEscape? mark = some c) :
    readText opened ('\\' :: mark :: rest) = (readText opened rest).map (push c) := by
  have apart : mark ≠ 'u' := by
    intro same
    subst same
    have unknown : simpleEscape? 'u' = none := by decide
    cases unknown.symm.trans known
  rw [readText.eq_def]
  simp only [CodePoint.char.injEq, Char.reduceEq, if_false, if_true, apart, known]

-- A closing quote or more must follow, since four hex digits never end a document.
theorem readText_writeOne (c : CodePoint) (present : rest ≠ []) :
    readText opened (writeOne c ++ rest) = (readText opened rest).map (push c) := by
  unfold writeOne
  split_ifs with quote slash feed back tab page bell control
  · exact quote ▸ readText_escape (by decide)
  · exact slash ▸ readText_escape (by decide)
  · exact feed ▸ readText_escape (by decide)
  · exact back ▸ readText_escape (by decide)
  · exact tab ▸ readText_escape (by decide)
  · exact page ▸ readText_escape (by decide)
  · exact bell ▸ readText_escape (by decide)
  · obtain ⟨next, more, rfl⟩ := List.exists_cons_of_ne_nil present
    have whole : ¬isHighHalf c.toNat := by
      simp only [isHighHalf, Bool.and_eq_true, decide_eq_true_eq]
      omega
    refine (readText_unit (unit?_hex (show c.toNat < 65536 by omega)) whole).trans ?_
    rw [CodePoint.ofNat_toNat]
  · rw [List.singleton_append, readText.eq_def]
    simp only [quote, slash, control, if_false]

theorem readText_writeText (opened : Nat) (text rest : Text) :
    readText opened (text.flatMap writeOne ++ .char '"' :: rest) = .ok (text, rest) := by
  induction text with
  | nil =>
    rw [List.flatMap_nil, List.nil_append, readText.eq_def]
    simp only [if_true]
  | cons c more ih =>
    rw [List.flatMap_cons, List.append_assoc, readText_writeOne c (by simp), ih]
    rfl

theorem skipGaps_append {gaps : Text} (each : ∀ c ∈ gaps, isGap c) : skipGaps (gaps ++ rest) = skipGaps rest :=
  List.dropWhile_append_of_pos each

theorem skipGaps_cons (solid : ¬isGap c) : skipGaps (c :: rest) = c :: rest := List.dropWhile_cons_of_neg solid

theorem isGap_lineBreak : ∀ c ∈ lineBreak depth, isGap c := by
  intro c member
  rcases List.mem_cons.mp member with rfl | member
  · decide
  · rw [(List.mem_replicate.mp member).2]
    decide

structure Opens (text : Text) : Prop where
  solid : ∃ c more, text = c :: more ∧ ¬isGap c ∧ c ≠ ']' ∧ c.isAscii

theorem Opens.skipGaps (opens : Opens text) : skipGaps (text ++ rest) = text ++ rest := by
  obtain ⟨c, more, rfl, solid, -⟩ := opens.solid
  exact skipGaps_cons solid

theorem Opens.append (opens : Opens text) (rest : Text) : Opens (text ++ rest) := by
  obtain ⟨c, more, rfl, solid⟩ := opens.solid
  exact ⟨c, more ++ rest, rfl, solid⟩

theorem opens_of_isDigit {more : Text} (digit : c.isDigit) : Opens (c :: more) := by
  refine ⟨c, more, rfl, ?_, ne_of_isDigit digit (by decide), ?_⟩
  · intro gap
    simp only [isGap, Bool.or_eq_true, decide_eq_true_eq] at gap
    rcases gap with ((rfl | rfl) | rfl) | rfl <;> exact absurd digit (by decide)
  · simp only [CodePoint.isDigit, Bool.and_eq_true, decide_eq_true_eq] at digit
    simp only [CodePoint.isAscii, decide_eq_true_eq]
    omega

theorem opens_enclosed {opening closing : Text} (opens : Opens opening) (parts : List Text) :
    Opens (enclosed opening closing depth parts) := by
  obtain ⟨c, more, rfl, solid⟩ := opens.solid
  unfold enclosed
  split
  · exact ⟨c, more ++ closing, rfl, solid⟩
  · exact ⟨c, _, rfl, solid⟩

theorem opens_double (x : Binary64) : Opens (x.write doubleLayout) := by
  cases x with
  | nan => exact ⟨_, _, rfl, by decide⟩
  | infinite negative => cases negative <;> exact ⟨_, _, rfl, by decide⟩
  | finite negative mantissa exponent =>
    obtain ⟨whole, places, power, decimal, same⟩ := Binary64.decimal_of_write doubleLayout negative mantissa exponent
    rw [same]
    cases negative with
    | false =>
      obtain ⟨first, more, rfl⟩ := List.exists_cons_of_ne_nil decimal.ofWhole.present
      exact opens_of_isDigit (decimal.ofWhole.digits first (List.mem_cons_self ..))
    | true => exact ⟨_, _, rfl, by decide⟩

theorem opens_writeAt (depth : Nat) (document : Json) : Opens (writeAt depth document) := by
  cases document with
  | null => exact ⟨_, _, rfl, by decide⟩
  | bool b => cases b <;> exact ⟨_, _, rfl, by decide⟩
  | int n =>
    cases n with
    | ofNat n =>
      obtain ⟨d, more, same, small, -⟩ := Text.head_ofNat n
      change Opens (Text.ofNat n)
      rw [same]
      exact opens_of_isDigit (Text.isDigit_digit small)
    | negSucc n => exact ⟨_, _, rfl, by decide⟩
  | double x => exact opens_double x
  | text t => exact ⟨_, _, rfl, by decide⟩
  | list items => exact opens_enclosed ⟨_, _, rfl, by decide⟩ _
  | object fields => exact opens_enclosed ⟨_, _, rfl, by decide⟩ _

theorem separated_cons_cons (first second : Text) (parts : List Text) : separated depth (first :: second :: parts) =
    first ++ .char ',' :: (lineBreak depth ++ separated depth (second :: parts)) := by
  simp [separated]

theorem enclosed_append {opening closing : CodePoint} {parts : List Text} (present : parts ≠ []) :
    enclosed [opening] [closing] depth parts ++ rest =
      opening :: (lineBreak (depth + 1) ++ (separated (depth + 1) parts ++ (lineBreak depth ++ closing :: rest))) := by
  have filled : ¬parts.isEmpty := by simpa using present
  simp [enclosed, filled]

theorem length_enclosed (depth : Nat) (opening closing : CodePoint) {parts : List Text} (present : parts ≠ []) :
    (separated (depth + 1) parts).length + 3 ≤ (enclosed [opening] [closing] depth parts).length := by
  have filled : ¬parts.isEmpty := by simpa using present
  simp only [enclosed, filled, lineBreak]
  simp
  omega

def doubleAsRead (x : Binary64) : Binary64 :=
  match readValue 1 (x.write doubleLayout) with
  | .ok (.double value, _) => value
  | _ => x

theorem readValue_write (bound : Nat) (x : Binary64) (ended : EndsNumber rest) :
    readValue (bound + 1) (x.write doubleLayout ++ rest) = .ok (.double (doubleAsRead x), rest) := by
  obtain ⟨value, read⟩ := readValue_double x
  have alone := read 0 [] (by simp [EndsNumber])
  rw [List.append_nil] at alone
  have same : doubleAsRead x = value := by
    unfold doubleAsRead
    rw [alone]
  rw [read bound rest ended, same]

mutual
def asRead : Json → Json
  | .double x => .double (doubleAsRead x)
  | .list items => .list (asReadItems items)
  | .object fields => .object (asReadFields fields)
  | leaf => leaf

def asReadItems : List Json → List Json
  | [] => []
  | item :: rest => asRead item :: asReadItems rest

def asReadFields : List (Text × Json) → List (Text × Json)
  | [] => []
  | (name, value) :: rest => (name, asRead value) :: asReadFields rest
end

theorem asRead_list (items : List Json) : asRead (.list items) = .list (items.map asRead) := by
  rw [asRead]
  congr
  induction items with
  | nil => rfl
  | cons item rest ih => rw [asReadItems, ih, List.map_cons]

theorem asRead_object (fields : Fields) : asRead (.object fields) = .object (fields.map fun field => (field.1, asRead field.2)) := by
  rw [asRead]
  congr
  induction fields with
  | nil => rfl
  | cons field rest ih => rw [asReadFields, ih, List.map_cons]

theorem asRead_of_exact (exact : document.Exact) : document.asRead = document := by
  induction document using Json.induct with
  | null | bool | int | text => rfl
  | double x => cases exact
  | list items ih =>
    have same : items.map asRead = items.map id := List.map_congr_left fun item member =>
      ih item member ((every_list.mp exact).2 item member)
    rw [asRead_list, same, List.map_id]
  | object fields ih =>
    have same : (fields.map fun field => (field.1, asRead field.2)) = fields.map id := List.map_congr_left fun field member =>
      Prod.ext rfl (ih field member ((every_object.mp exact).2 field member))
    rw [asRead_object, same, List.map_id]

def returned (document : Json) : Json := document.asRead.canonical

theorem returned_of_exact (exact : document.Exact) : document.returned = document.canonical :=
  congrArg canonical (asRead_of_exact exact)

theorem returned_list (items : List Json) : returned (.list items) = .list (items.map returned) := by
  rw [returned, asRead_list, canonical_list, List.map_map]
  rfl

theorem returned_object (fields : Fields) : returned (.object fields) =
    .object ((Sorting.sort (fun a b => Text.le a.1 b.1) fields).map fun field => (field.1, returned field.2)) := by
  rw [returned, asRead_object, canonical_object, canonicalObject, List.map_map]
  exact congrArg _ (Sorting.sort_map_value returned fields)

-- A document that comes back out of its text before any end of a number.
def ComesBack (depth : Nat) (document : Json) : Prop :=
  ∀ bound rest, 2 * (writeAt depth document).length ≤ bound → EndsNumber rest →
    readValue bound (writeAt depth document ++ rest) = .ok (document.returned, rest)

theorem endsNumber_comma : EndsNumber (.char ',' :: rest) := by
  intro c head
  cases head
  decide

theorem endsNumber_lineBreak : EndsNumber (lineBreak depth ++ rest) := by
  intro c head
  cases head
  decide

-- Each item is read with two less of the bound than the ones before it, which its
-- own text and the comma before it have paid for.
theorem readItems_separated (bound closes : Nat) (rest : Text)
    (each : ∀ item ∈ items, ComesBack depth item) (present : items ≠ [])
    (enough : 2 * (separated depth (items.map (writeAt depth))).length < bound) :
    readItems bound (separated depth (items.map (writeAt depth)) ++ (lineBreak closes ++ .char ']' :: rest)) =
      .ok (items.map returned, rest) := by
  induction items generalizing bound with
  | nil => exact absurd rfl present
  | cons item more ih =>
    have comesBack := each item (List.mem_cons_self ..)
    obtain ⟨bound, rfl⟩ := Nat.exists_eq_succ_of_ne_zero (Nat.ne_zero_of_lt enough)
    cases more with
    | nil =>
      simp only [List.map_cons, List.map_nil, separated, List.flatMap_nil, List.append_nil] at enough ⊢
      rw [readItems, comesBack bound _ (by omega) endsNumber_lineBreak]
      simp only [skipGaps_append isGap_lineBreak, skipGaps_cons (show ¬isGap ']' by decide), if_true]
    | cons next more =>
      have opens : Opens (separated depth ((next :: more).map (writeAt depth))) :=
        (opens_writeAt depth next).append _
      have later := @ih bound (fun item member => each item (List.mem_cons_of_mem _ member)) (List.cons_ne_nil _ _)
      simp only [List.map_cons, separated_cons_cons, List.append_assoc, List.cons_append, List.length_append,
        List.length_cons] at enough opens later ⊢
      rw [readItems, comesBack bound _ (by omega) endsNumber_comma]
      simp only [skipGaps_cons (show ¬isGap ',' by decide), CodePoint.char.injEq, Char.reduceEq, if_false, if_true,
        skipGaps_append isGap_lineBreak, opens.skipGaps, later (by omega)]
      rfl

theorem comesBack_list (each : ∀ item ∈ items, ∀ depth, ComesBack depth item) :
    ComesBack depth (.list items) := by
  intro bound rest enough ended
  rw [writeAt_list] at enough ⊢
  rw [returned_list]
  change 2 * (enclosed [.char '['] [.char ']'] depth (items.map (writeAt (depth + 1)))).length ≤ bound at enough
  change readValue bound (enclosed [.char '['] [.char ']'] depth (items.map (writeAt (depth + 1))) ++ rest) = _
  by_cases none : items = []
  · subst none
    obtain ⟨bound, rfl⟩ := Nat.exists_eq_succ_of_ne_zero (Nat.ne_zero_of_lt enough)
    change readValue (bound + 1) (.char '[' :: .char ']' :: rest) = _
    simp only [readValue, CodePoint.char.injEq, Char.reduceEq, if_false, if_true, skipGaps_cons (show ¬isGap ']' by decide)]
    rfl
  · have present : items.map (writeAt (depth + 1)) ≠ [] := by simpa using none
    have shorter := length_enclosed depth '[' ']' present
    obtain ⟨bound, rfl⟩ := Nat.exists_eq_succ_of_ne_zero (show bound ≠ 0 by omega)
    have opens : Opens (separated (depth + 1) (items.map (writeAt (depth + 1)))) := by
      obtain ⟨first, more, rfl⟩ := List.exists_cons_of_ne_nil none
      exact (opens_writeAt (depth + 1) first).append _
    have read := readItems_separated bound depth rest
      (fun item member => each item member (depth + 1)) none (by omega)
    rw [enclosed_append present]
    simp only [readValue, CodePoint.char.injEq, Char.reduceEq, if_false, if_true, skipGaps_append isGap_lineBreak,
      opens.skipGaps]
    obtain ⟨c, more, same, -, notClosing, -⟩ := opens.solid
    rw [same, List.cons_append] at read ⊢
    simp only [notClosing, if_false, read]
    rfl

def fieldText (depth : Nat) (field : Text × Json) : Text := writeText field.1 ++ ": " ++ writeAt depth field.2

theorem opens_fieldText (field : Text × Json) : Opens (fieldText depth field) := ⟨_, _, rfl, by decide⟩

theorem readFields_fieldText {field : Text × Json} (comesBack : ComesBack depth field.2)
    (enough : 2 * (fieldText depth field).length < bound) (ended : EndsNumber rest) :
    readFields bound (fieldText depth field ++ rest) =
      match skipGaps rest with
      | [] => stopAt .expectingComma []
      | c :: more =>
        if c = '}' then .ok ([(field.1, field.2.returned)], more)
        else if c = ',' then
          (readFields (bound - 1) (skipGaps more)).map fun read => ((field.1, field.2.returned) :: read.1, read.2)
        else stopAt .expectingComma (c :: more) := by
  obtain ⟨bound, rfl⟩ := Nat.exists_eq_succ_of_ne_zero (Nat.ne_zero_of_lt enough)
  have value := comesBack bound rest (by simp [fieldText] at enough; omega) ended
  have spelled : fieldText depth field ++ rest =
      .char '"' :: (field.1.flatMap writeOne ++ .char '"' :: .char ':' :: .char ' ' :: (writeAt depth field.2 ++ rest)) := by
    simp [fieldText, writeText, Text.ofString]
  rw [spelled, readFields]
  have blank : skipGaps (.char ' ' :: (writeAt depth field.2 ++ rest)) = writeAt depth field.2 ++ rest := by
    have skipped : skipGaps ([.char ' '] ++ (writeAt depth field.2 ++ rest)) = skipGaps (writeAt depth field.2 ++ rest) :=
      skipGaps_append (by decide)
    exact skipped.trans (opens_writeAt depth field.2).skipGaps
  simp only [if_true, readText_writeText, skipGaps_cons (show ¬isGap ':' by decide), blank, value]
  rfl

theorem readFields_separated (bound closes : Nat) (rest : Text) (each : ∀ field ∈ fields, ComesBack depth field.2)
    (present : fields ≠ []) (enough : 2 * (separated depth (fields.map (fieldText depth))).length < bound) :
    readFields bound (separated depth (fields.map (fieldText depth)) ++ (lineBreak closes ++ .char '}' :: rest)) =
      .ok (fields.map fun field => (field.1, field.2.returned), rest) := by
  induction fields generalizing bound with
  | nil => exact absurd rfl present
  | cons field more ih =>
    have comesBack := each field (List.mem_cons_self ..)
    cases more with
    | nil =>
      simp only [List.map_cons, List.map_nil, separated, List.flatMap_nil, List.append_nil] at enough ⊢
      rw [readFields_fieldText comesBack enough endsNumber_lineBreak]
      simp only [skipGaps_append isGap_lineBreak, skipGaps_cons (show ¬isGap '}' by decide), if_true]
    | cons next more =>
      have opens : Opens (separated depth ((next :: more).map (fieldText depth))) := (opens_fieldText next).append _
      have later := @ih (bound - 1) (fun field member => each field (List.mem_cons_of_mem _ member)) (List.cons_ne_nil _ _)
      simp only [List.map_cons, separated_cons_cons, List.append_assoc, List.cons_append, List.length_append,
        List.length_cons] at enough opens later ⊢
      rw [readFields_fieldText comesBack (by omega) endsNumber_comma]
      simp only [skipGaps_cons (show ¬isGap ',' by decide), CodePoint.char.injEq, Char.reduceEq, if_false, if_true,
        skipGaps_append isGap_lineBreak, opens.skipGaps, later (by omega)]
      rfl

theorem comesBack_object (distinct : (fields.map Prod.fst).Nodup)
    (each : ∀ field ∈ fields, ∀ depth, ComesBack depth field.2) : ComesBack depth (.object fields) := by
  intro bound rest enough ended
  have same : writeAt depth (.object fields) = enclosed [.char '{'] [.char '}'] depth
      ((Sorting.sort (fun a b => Text.le a.1 b.1) fields).map (fieldText (depth + 1))) := writeAt_object depth fields
  rw [same] at enough ⊢
  rw [returned_object]
  have sorted : ((Sorting.sort (fun a b => Text.le a.1 b.1) fields).map Prod.fst).Nodup :=
    ((Sorting.sort_perm _ _).map _).nodup_iff.mpr distinct
  replace each : ∀ field ∈ Sorting.sort (fun a b => Text.le a.1 b.1) fields, ∀ depth, ComesBack depth field.2 :=
    fun field member => each field (Sorting.mem_sort.mp member)
  generalize Sorting.sort (fun a b => Text.le a.1 b.1) fields = fields at enough each sorted
  by_cases none : fields = []
  · subst none
    obtain ⟨bound, rfl⟩ := Nat.exists_eq_succ_of_ne_zero (Nat.ne_zero_of_lt enough)
    change readValue (bound + 1) (.char '{' :: .char '}' :: rest) = _
    simp only [readValue, CodePoint.char.injEq, Char.reduceEq, if_false, if_true, skipGaps_cons (show ¬isGap '}' by decide)]
    rfl
  · have present : fields.map (fieldText (depth + 1)) ≠ [] := by simpa using none
    have shorter := length_enclosed depth '{' '}' present
    obtain ⟨bound, rfl⟩ := Nat.exists_eq_succ_of_ne_zero (show bound ≠ 0 by omega)
    have read := readFields_separated bound depth rest
      (fun field member => each field member (depth + 1)) none (by omega)
    obtain ⟨first, more, rfl⟩ := List.exists_cons_of_ne_nil none
    have opens : Opens (separated (depth + 1) ((first :: more).map (fieldText (depth + 1)))) := (opens_fieldText first).append _
    have quoted : ∃ more', separated (depth + 1) ((first :: more).map (fieldText (depth + 1))) = .char '"' :: more' := ⟨_, rfl⟩
    have named : (((first :: more).map fun field => (field.1, field.2.returned)).map Prod.fst).Nodup := by
      rwa [List.map_map]
    rw [enclosed_append present]
    simp only [readValue, CodePoint.char.injEq, Char.reduceEq, if_false, if_true, skipGaps_append isGap_lineBreak,
      opens.skipGaps]
    obtain ⟨more', quoted⟩ := quoted
    rw [quoted, List.cons_append] at read ⊢
    simp only [CodePoint.char.injEq, Char.reduceEq, if_false, read]
    exact congrArg (fun fields => Except.ok (Json.object fields, rest)) (ofPairs_of_distinct named)

theorem readLiteral?_null : readLiteral? (("null" : Text) ++ rest) = some (.null, rest) := by
  simp [readLiteral?, literals, Text.ofString, Text.afterPrefix?]

theorem readLiteral?_bool (b : Bool) : readLiteral? ((if b then "true" else "false" : Text) ++ rest) = some (.bool b, rest) := by
  cases b <;> simp [readLiteral?, literals, Text.ofString, Text.afterPrefix?]

theorem comesBack_of_succ (read : ∀ bound rest, EndsNumber rest →
    readValue (bound + 1) (writeAt depth document ++ rest) = .ok (document.returned, rest)) : ComesBack depth document := by
  intro bound rest enough ended
  obtain ⟨c, more, same, -⟩ := (opens_writeAt depth document).solid
  have positive : bound ≠ 0 := by
    rw [same, List.length_cons] at enough
    omega
  obtain ⟨bound, rfl⟩ := Nat.exists_eq_succ_of_ne_zero positive
  exact read bound rest ended

theorem comesBack_of_readable (depth : Nat) (readable : document.Readable) : ComesBack depth document := by
  induction document using Json.induct generalizing depth with
  | null => exact comesBack_of_succ fun bound rest ended => readValue_of_literal readLiteral?_null ⟨_, _, rfl, by decide⟩
  | bool b =>
    apply comesBack_of_succ
    exact fun bound rest ended => readValue_of_literal (readLiteral?_bool b) (by cases b <;> exact ⟨_, _, rfl, by decide⟩)
  | int n => exact comesBack_of_succ fun bound rest ended => readValue_ofInt (readable_int.mp readable) ended
  | double x => exact comesBack_of_succ fun bound rest ended => readValue_write bound x ended
  | text t =>
    apply comesBack_of_succ
    intro bound rest ended
    have spelled : writeAt depth (.text t) ++ rest = .char '"' :: (t.flatMap writeOne ++ .char '"' :: rest) := by
      simp [writeAt, writeText, Text.ofString]
    rw [spelled, readValue]
    simp only [if_true, readText_writeText]
    rfl
  | list items ih =>
    have each := readable_list.mp readable
    exact comesBack_list fun item member depth => ih item member depth (each item member)
  | object fields ih =>
    obtain ⟨distinct, each⟩ := readable_object.mp readable
    exact comesBack_object distinct fun field member depth => ih field member depth (each field member)

-- A document that is written is read back.
theorem read_write (readable : document.Readable) : Json.read document.write = .ok document.returned := by
  have opens := opens_writeAt 0 document
  have ended : EndsNumber (lineBreak 0 ++ []) := endsNumber_lineBreak
  have comes := comesBack_of_readable 0 readable (2 * document.write.length + 2) ("\n" : Text)
    (by simp only [write, List.length_append]; omega) ended
  obtain ⟨c, more, same, solid, -, ascii⟩ := opens.solid
  have spelled : document.write = c :: (more ++ ("\n" : Text)) := by rw [write, same, List.cons_append]
  have unmarked : c ≠ '\uFEFF' := by
    intro same
    subst same
    cases ascii
  have whole : readAll document.write = .ok document.returned := by
    have skipped : skipGaps document.write = document.write := by
      rw [spelled]
      exact skipGaps_cons solid
    change readValue _ document.write = _ at comes
    unfold readAll
    split
    · rename_i marked
      rw [spelled] at marked
      exact absurd (List.head_eq_of_cons_eq marked) unmarked
    · rw [skipped, comes]
      rfl
  rw [Json.read, whole]
  rfl

end ChangeCapture.Json
