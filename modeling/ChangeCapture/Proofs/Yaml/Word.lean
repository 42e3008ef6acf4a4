import ChangeCapture.Proofs.Files.Path
import ChangeCapture.Proofs.Spec.Token
import ChangeCapture.Proofs.Yaml.BlockStyle

namespace ChangeCapture.Yaml

-- Names as plain scalars. A letter begins no number and no mark, so a name is a text unless
-- it is one of the words for a truth value or for nothing.

variable {c first : CodePoint} {rest text : Text}

theorem toNat_of_isNamePart (part : Identifier.isNamePart c) :
    0x30 ≤ c.toNat ∧ c.toNat ≤ 0x39 ∨ 0x41 ≤ c.toNat ∧ c.toNat ≤ 0x5A ∨ c.toNat = 0x5F ∨ 0x61 ≤ c.toNat ∧ c.toNat ≤ 0x7A := by
  simp only [Identifier.isNamePart, CodePoint.isLetter, CodePoint.isLowerLetter, CodePoint.isUpperLetter, CodePoint.isDigit,
    Bool.or_eq_true, Bool.and_eq_true, decide_eq_true_eq] at part
  rcases part with part | rfl
  · omega
  · exact .inr (.inr (.inl rfl))

theorem ne_of_isNamePart {mark : Char} (part : Identifier.isNamePart c) (other : Identifier.isNamePart (.char mark) = false) :
    c ≠ .char mark := by
  rintro rfl
  rw [part] at other
  cases other

theorem isPrintable_of_isNamePart (part : Identifier.isNamePart c) : isPrintable c := by
  have number := toNat_of_isNamePart part
  have ordinary : 0x20 ≤ c.toNat ∧ c.toNat ≤ 0x7E := by omega
  simp [isPrintable, inRanges, ordinary]

theorem isBreak_of_isNamePart (part : Identifier.isNamePart c) : isBreak c = false := by
  have number := toNat_of_isNamePart part
  simp only [isBreak, Bool.or_eq_false_iff, decide_eq_false_iff_not]
  omega

theorem isInner_of_isNamePart (part : Identifier.isNamePart c) : Plain.isInner c := by
  have number := toNat_of_isNamePart part
  refine Plain.isInner_iff.mpr ⟨isPrintable_of_isNamePart part, ?_, isBreak_of_isNamePart part, ne_of_isNamePart part rfl,
    ne_of_isNamePart part rfl⟩
  simp only [isGap, Bool.or_eq_false_iff, decide_eq_false_iff_not]
  omega

theorem isWord_of_isName (name : Identifier.isName text) : Plain.isWord text := by
  obtain ⟨first, rest, rfl, letter, parts⟩ := Identifier.isName_iff.mp name
  refine Plain.isWord_iff.mpr ⟨first, rest, rfl, ?_, fun c member => isInner_of_isNamePart (List.all_eq_true.mp parts c member)⟩
  have part := Identifier.isNamePart_of_isNameStart letter
  have other : ∀ mark ∈ Text.ofString Plain.marks, Identifier.isNamePart mark = false := by decide +kernel
  rintro mark listed rfl
  rw [other first listed] at part
  cases part

theorem isInner_quoted_of_isNamePart (part : Identifier.isNamePart c) : Quoted.isInner c := by
  refine Quoted.isInner_iff.mpr ⟨isPrintable_of_isNamePart part, isBreak_of_isNamePart part, ne_of_isNamePart part rfl,
    ne_of_isNamePart part rfl, ne_of_isNamePart part rfl⟩

namespace Tag

theorem isWord_iff {words : List String} : isWord words text ↔ ∃ word ∈ words, Text.ofString word = text := by
  simp [isWord]

theorem not_isWord {words : List String} (letter : Identifier.isNameStart first)
    (marked : ∀ word ∈ words, ((Text.ofString word).head?.any Identifier.isNameStart) = false) : isWord words (first :: rest) = false := by
  apply Bool.eq_false_iff.mpr
  intro found
  obtain ⟨word, listed, same⟩ := isWord_iff.mp found
  have begins := marked word listed
  rw [same] at begins
  change Identifier.isNameStart first = false at begins
  rw [letter] at begins
  cases begins

theorem not_isDigit (letter : Identifier.isNameStart first) : first.isDigit = false := by
  simp only [Identifier.isNameStart, CodePoint.isLetter, CodePoint.isLowerLetter, CodePoint.isUpperLetter, Bool.or_eq_true,
    Bool.and_eq_true, decide_eq_true_eq] at letter
  simp only [CodePoint.isDigit, Bool.and_eq_false_iff, decide_eq_false_iff_not]
  omega

theorem ne_of_isNameStart (mark : Char) (letter : Identifier.isNameStart first) (other : Identifier.isNameStart (.char mark) = false) :
    first ≠ .char mark := by
  rintro rfl
  rw [letter] at other
  cases other

theorem isFloat_of_isName (name : Identifier.isName text) : isFloat text = false := by
  obtain ⟨first, rest, rfl, letter, parts⟩ := Identifier.isName_iff.mp name
  have digit := not_isDigit letter
  have minus := ne_of_isNameStart '-' letter rfl
  have plus := ne_of_isNameStart '+' letter rfl
  have point := ne_of_isNameStart '.' letter rfl
  have colon : .char ':' ∉ first :: rest :=
    fun member => ne_of_isNamePart (List.all_eq_true.mp parts _ member) rfl rfl
  have unsigned : withoutSign (first :: rest) = first :: rest := by simp [withoutSign, minus, plus]
  have fraction : isFraction (first :: rest) = false := by
    cases rest <;> simp [isFraction, point]
  rw [isFloat, unsigned, fraction, not_isWord letter (by decide), not_isWord letter (by decide)]
  simp [isPointFloat, digit, isSixtyFloat, Text.splitOn_of_not_mem colon]

theorem isInt_of_isName (name : Identifier.isName text) : isInt text = false := by
  obtain ⟨first, rest, rfl, letter, parts⟩ := Identifier.isName_iff.mp name
  have digit := not_isDigit letter
  have minus := ne_of_isNameStart '-' letter rfl
  have plus := ne_of_isNameStart '+' letter rfl
  have zero := ne_of_isNameStart '0' letter rfl
  have colon : .char ':' ∉ first :: rest :=
    fun member => ne_of_isNamePart (List.all_eq_true.mp parts _ member) rfl rfl
  have unsigned : withoutSign (first :: rest) = first :: rest := by simp [withoutSign, minus, plus]
  have based (marker : Char) (digits : CodePoint → Bool) : isBased marker digits (first :: rest) = false := by
    match rest with
    | [] | [_] | _ :: _ :: _ => simp [isBased, zero]
  have octal : isOctal (first :: rest) = false := by
    cases rest <;> simp [isOctal, zero]
  simp [isInt, unsigned, based, octal, isDecimal, digit, zero, isSixtyInt, Text.splitOn_of_not_mem colon]

theorem isPlain_of_isName (name : Identifier.isName text) : Stamp.isPlain text = false := by
  have lineEnd : .char '\n' ∉ text := fun member => ne_of_isNamePart (Identifier.parts_of_isName name _ member) rfl rfl
  obtain ⟨first, rest, rfl, letter, -⟩ := Identifier.isName_iff.mp name
  have year : Stamp.digits? 4 4 (first :: rest) = none := by simp [Stamp.digits?, not_isDigit letter]
  have none : Stamp.read? (first :: rest) = none := by
    rw [Stamp.read?, Text.withoutFinalBreak_of_not_mem lineEnd, year]
    rfl
  rw [Stamp.isPlain, none]

theorem ofPlain_of_isName (name : Identifier.isName text) :
    ofPlain text = if isWord boolWords text then .bool else if isWord nullWords text then .null else .text := by
  have lineEnd : .char '\n' ∉ text := fun member => ne_of_isNamePart (Identifier.parts_of_isName name _ member) rfl rfl
  obtain ⟨first, rest, rfl, letter, -⟩ := Identifier.isName_iff.mp name
  have merge : isWord ["<<"] (first :: rest) = false := not_isWord letter (by decide)
  have default : isWord ["="] (first :: rest) = false := not_isWord letter (by decide)
  have marks : isWord ["!", "&", "*"] (first :: rest) = false := not_isWord letter (by decide)
  simp only [ofPlain, Text.withoutFinalBreak_of_not_mem lineEnd, isFloat_of_isName name, isInt_of_isName name, merge,
    isPlain_of_isName name, default, marks, List.isEmpty_cons, Bool.false_or, Bool.false_eq_true, if_false]

def reserved : List Text := ["yes", "no", "true", "false", "on", "off", "null"]

theorem ofPlain_of_free (name : Identifier.isName text) (free : text.lower ∉ reserved) : ofPlain text = .text := by
  have listed : ∀ word ∈ boolWords ++ nullWords, Identifier.isName (Text.ofString word) → (Text.ofString word).lower ∈ reserved := by
    decide +kernel
  have other : ∀ words, words ⊆ boolWords ++ nullWords → isWord words text = false := by
    intro words among
    apply Bool.eq_false_iff.mpr
    intro found
    obtain ⟨word, member, rfl⟩ := isWord_iff.mp found
    exact free (listed word (among member) name)
  rw [ofPlain_of_isName name, other boolWords (List.subset_append_left _ _), other nullWords (List.subset_append_right _ _)]
  rfl

theorem ofPlain_upper (name : Identifier.isName text) (free : text.lower ∉ reserved) : ofPlain text.upper = .text := by
  apply ofPlain_of_free (Identifier.isName_upper name)
  rwa [Text.lower_upper (Identifier.ascii_of_isName name)]

theorem ofPlain_lower (name : Identifier.isName text) (free : text.lower ∉ reserved) : ofPlain text.lower = .text := by
  apply ofPlain_of_free (Identifier.isName_lower name)
  rwa [Text.lower_lower (Identifier.ascii_of_isName name)]

end Tag

theorem Leaf.ofTag_of_text {word : Text} (isText : Tag.ofPlain word = .text) :
    Scalar.ofTag (Leaf.plain word).tag (Leaf.plain word).content = .ok (.text word) := by
  rw [Leaf.tag, isText]
  rfl

theorem Leaf.isLegible_of_text {word : Text} (isText : Tag.ofPlain word = .text) : (Leaf.plain word).isLegible := by
  rw [isLegible, ofTag_of_text isText]
  rfl

theorem Leaf.document_of_text {word : Text} (isText : Tag.ofPlain word = .text) : (Leaf.plain word).document = .text word := by
  rw [document, ofTag_of_text isText]
  rfl

end ChangeCapture.Yaml
