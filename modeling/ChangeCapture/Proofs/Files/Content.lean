import ChangeCapture.Files.Content
import ChangeCapture.Proofs.Json.RoundTrip
import ChangeCapture.Proofs.Text.Utf8

namespace ChangeCapture

namespace Text

theorem withLineFeeds_of_not_mem {text : Text} (none : .char '\r' ∉ text) : text.withLineFeeds = text := by
  unfold withLineFeeds
  induction text with
  | nil => rfl
  | cons c rest ih =>
    rw [List.mem_cons, not_or] at none
    rw [lineFeeds, if_neg fun same => none.1 same.symm, if_neg (by simp), ih none.2]

end Text

namespace Json

variable {c : CodePoint} {depth : Nat} {document : Json}

theorem not_return_writeOne (c : CodePoint) : .char '\r' ∉ writeOne c := by
  have spelled : ∀ n : Nat, .char '\r' ≠ Text.hexDigit (n % 16) := by
    intro n same
    have number := Text.toNat_hexDigit (Nat.mod_lt n (show 0 < 16 by decide))
    rw [← same] at number
    change 13 = _ at number
    split at number <;> omega
  unfold writeOne
  split_ifs with quote slash feed back tab page bell control
  all_goals try decide
  · rw [Text.hex_four]
    intro member
    simp [spelled, Text.ofString] at member
  · rw [List.mem_singleton]
    exact fun same => back same.symm

theorem not_return_writeText (text : Text) : .char '\r' ∉ writeText text := by
  simp only [writeText, List.mem_append, List.mem_flatMap, not_or, not_exists, not_and]
  exact ⟨⟨by decide, fun c _ => not_return_writeOne c⟩, by decide⟩

theorem not_return_lineBreak : .char '\r' ∉ lineBreak depth := by
  intro member
  rcases List.mem_cons.mp member with same | member
  · cases same
  · cases (List.mem_replicate.mp member).2

theorem not_return_enclosed {opening closing : Text} {parts : List Text} (front : .char '\r' ∉ opening)
    (back : .char '\r' ∉ closing) (each : ∀ part ∈ parts, .char '\r' ∉ part) :
    .char '\r' ∉ enclosed opening closing depth parts := by
  unfold enclosed
  split
  · simpa using ⟨front, back⟩
  · have inside : .char '\r' ∉ separated (depth + 1) parts := by
      cases parts with
      | nil => simp [separated]
      | cons first rest =>
        simp only [separated, List.mem_append, List.mem_flatMap, List.mem_cons, not_or, not_exists, not_and]
        refine ⟨each first (List.mem_cons_self ..), fun part member => ⟨by decide, not_return_lineBreak, ?_⟩⟩
        exact each part (List.mem_cons_of_mem _ member)
    simp [front, back, inside, not_return_lineBreak]

theorem not_return_of_digits {digits : Text} (each : ∀ c ∈ digits, c.isDigit) : .char '\r' ∉ digits :=
  fun member => absurd (each _ member) (by decide)

theorem not_return_double (x : Binary64) : .char '\r' ∉ x.write doubleLayout := by
  cases x with
  | nan => decide
  | infinite negative => cases negative <;> decide
  | finite negative mantissa exponent =>
    obtain ⟨whole, places, power, ⟨ofWhole, ofPlaces, ofPower, -⟩, same⟩ :=
      Binary64.decimal_of_write doubleLayout negative mantissa exponent
    have inSign : .char '\r' ∉ Text.minus negative := by cases negative <;> decide
    have inPlaces : .char '\r' ∉ places := by
      rcases ofPlaces with rfl | ⟨digits, ofDigits, rfl⟩
      · exact List.not_mem_nil
      · exact List.not_mem_cons_of_ne_of_not_mem (by decide) (not_return_of_digits ofDigits.digits)
    have inPower : .char '\r' ∉ power := by
      rcases ofPower with rfl | ⟨sign, digits, signed, ofDigits, rfl⟩
      · exact List.not_mem_nil
      · refine List.not_mem_cons_of_ne_of_not_mem (by decide)
          (List.not_mem_cons_of_ne_of_not_mem ?_ (not_return_of_digits ofDigits.digits))
        rcases signed with rfl | rfl <;> decide
    simp only [same, List.mem_append, not_or]
    exact ⟨inSign, ⟨not_return_of_digits ofWhole.digits, inPlaces⟩, inPower⟩

-- Carriage returns are escaped inside texts and stand nowhere else.
theorem not_return_writeAt (document : Json) : .char '\r' ∉ writeAt depth document := by
  induction document using Json.induct generalizing depth with
  | null => exact (by decide : .char '\r' ∉ ("null" : Text))
  | bool b =>
    cases b with
    | false => exact (by decide : .char '\r' ∉ ("false" : Text))
    | true => exact (by decide : .char '\r' ∉ ("true" : Text))
  | int n =>
    have digits : ∀ n, .char '\r' ∉ Text.ofNat n := fun n => not_return_of_digits fun _ => Text.isDigit_of_mem_ofNat
    cases n with
    | ofNat n => exact digits n
    | negSucc n =>
      change _ ∉ _ ++ _
      rw [List.mem_append, not_or]
      exact ⟨by decide, digits (n + 1)⟩
  | double x => exact not_return_double x
  | text t => exact not_return_writeText t
  | list items ih =>
    rw [writeAt_list]
    apply not_return_enclosed (by decide) (by decide)
    intro part member
    obtain ⟨item, present, rfl⟩ := List.mem_map.mp member
    exact ih item present
  | object fields ih =>
    rw [writeAt_object]
    apply not_return_enclosed (by decide) (by decide)
    intro part member
    obtain ⟨field, present, rfl⟩ := List.mem_map.mp member
    rw [Sorting.mem_sort] at present
    simp only [List.mem_append, not_or]
    exact ⟨⟨not_return_writeText field.1, by decide⟩, ih field present⟩

end Json

namespace Content

variable {bytes : Bytes} {written : Text} {document : Json}

theorem text_of_encode (encoded : Utf8.encode written = .ok bytes) : Content.text bytes = .ok written := by
  rw [Content.text, Utf8.decode_of_encode encoded]
  rfl

theorem json_of_text (readable : document.Readable) (held : Content.text bytes = .ok document.write) :
    Content.json bytes = .ok document.returned := by
  have same : document.write.withLineFeeds = document.write := by
    apply Text.withLineFeeds_of_not_mem
    rw [Json.write, List.mem_append, not_or]
    exact ⟨Json.not_return_writeAt document, by decide⟩
  simp only [Content.json, held, bind, Except.bind, same, Json.read_write readable]
  rfl

theorem readable_of_json (parsed : Content.json bytes = .ok document) : document.Readable := by
  obtain ⟨text, -, read⟩ := bind_eq_ok_iff.mp parsed
  exact Json.readable_of_read (mapError_eq_ok_iff.mp read)

end Content

end ChangeCapture
