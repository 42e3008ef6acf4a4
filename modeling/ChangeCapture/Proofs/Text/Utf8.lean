import ChangeCapture.Proofs.Outcome
import ChangeCapture.Proofs.Text.CodePoint
import ChangeCapture.Text.Utf8

namespace ChangeCapture.Utf8

variable {text : Text} {bytes rest : Bytes} {index : Nat} {b : UInt8} {n : Nat}

theorem toNat_byte (small : n < 256) : (UInt8.ofNat n).toNat = n := by
  rw [UInt8.toNat_ofNat']
  exact Nat.mod_eq_of_lt small

theorem lead_of_one (high : b.toNat < 0x80) : lead b = .ascii := by
  simp only [lead, UInt8.lt_iff_toNat_lt]
  exact if_pos high

theorem lead_of_two (low : 0xC2 ≤ b.toNat) (high : b.toNat < 0xE0) : lead b = .sequence 1 0x80 0xBF := by
  simp only [lead, UInt8.lt_iff_toNat_lt]
  rw [if_neg, if_neg, if_pos]
  · exact high
  · exact Nat.not_lt.mpr low
  · exact Nat.not_lt.mpr (Nat.le_trans (by decide) low)

-- The first of three bytes narrows the span of the second at either end of its own.
theorem lead_of_three (low : 0xE0 ≤ b.toNat) (high : b.toNat < 0xF0) : ∃ first last, lead b = .sequence 2 first last ∧
    first.toNat = (if b.toNat = 0xE0 then 0xA0 else 0x80) ∧ last.toNat = if b.toNat = 0xED then 0x9F else 0xBF := by
  simp only [lead, UInt8.lt_iff_toNat_lt, ← UInt8.toNat_inj]
  rw [if_neg, if_neg, if_neg]
  · by_cases least : b.toNat = 0xE0
    · exact ⟨0xA0, 0xBF, if_pos least, (if_pos least).symm, (if_neg (by omega)).symm⟩
    · by_cases halves : b.toNat = 0xED
      · exact ⟨0x80, 0x9F, (if_neg least).trans (if_pos halves), (if_neg least).symm, (if_pos halves).symm⟩
      · exact ⟨0x80, 0xBF, (if_neg least).trans ((if_neg halves).trans (if_pos high)), (if_neg least).symm, (if_neg halves).symm⟩
  all_goals exact Nat.not_lt.mpr (Nat.le_trans (by decide) low)

theorem lead_of_four (low : 0xF0 ≤ b.toNat) (high : b.toNat < 0xF5) : ∃ first last, lead b = .sequence 3 first last ∧
    first.toNat = (if b.toNat = 0xF0 then 0x90 else 0x80) ∧ last.toNat = if b.toNat = 0xF4 then 0x8F else 0xBF := by
  simp only [lead, UInt8.lt_iff_toNat_lt, ← UInt8.toNat_inj]
  rw [if_neg, if_neg, if_neg, if_neg, if_neg, if_neg]
  · by_cases least : b.toNat = 0xF0
    · exact ⟨0x90, 0xBF, if_pos least, (if_pos least).symm, (if_neg (by omega)).symm⟩
    · by_cases most : b.toNat = 0xF4
      · refine ⟨0x80, 0x8F, (if_neg least).trans ((if_neg ?_).trans (if_pos most)), (if_neg least).symm, (if_pos most).symm⟩
        exact Nat.not_lt.mpr (Nat.le_of_eq most.symm)
      · refine ⟨0x80, 0xBF, (if_neg least).trans (if_pos ?_), (if_neg least).symm, (if_neg most).symm⟩
        change b.toNat < 0xF4
        omega
  · exact Nat.not_lt.mpr low
  · change ¬b.toNat = 0xED
    omega
  · change ¬b.toNat = 0xE0
    omega
  all_goals exact Nat.not_lt.mpr (Nat.le_trans (by decide) low)

variable {value more left count : Nat} {low high byte : UInt8} {first : Nat}

theorem decodeFrom_within (within : low.toNat ≤ b.toNat ∧ b.toNat ≤ high.toNat) :
    decodeFrom index (some ⟨value, left + 2, low, high, byte, first, count⟩) (b :: rest) =
      decodeFrom (index + 1) (some ⟨value * 64 + (b.toNat - 0x80), left + 1, 0x80, 0xBF, byte, first, count + 1⟩) rest := by
  rw [decodeFrom]
  simp only [UInt8.lt_iff_toNat_lt]
  exact if_neg (by omega)

theorem decodeFrom_last (within : low.toNat ≤ b.toNat ∧ b.toNat ≤ high.toNat) :
    decodeFrom index (some ⟨value, 1, low, high, byte, first, count⟩) (b :: rest) =
      (decodeFrom (index + 1) none rest).map (.ofNat (value * 64 + (b.toNat - 0x80)) :: ·) := by
  rw [decodeFrom]
  simp only [UInt8.lt_iff_toNat_lt]
  exact if_neg (by omega)

theorem decodeFrom_sequence {more : Nat} (led : lead b = .sequence more low high) :
    decodeFrom index none (b :: rest) = decodeFrom (index + 1) (some ⟨leadBits b, more, low, high, b, index, 1⟩) rest := by
  rw [decodeFrom]
  simp only [led]

theorem leadBits_eq (b : UInt8) : leadBits b =
    if b.toNat < 0xE0 then b.toNat - 0xC0 else if b.toNat < 0xF0 then b.toNat - 0xE0 else b.toNat - 0xF0 := by
  simp only [leadBits, UInt8.lt_iff_toNat_lt]
  rfl

theorem toNat_spans : (0x80 : UInt8).toNat = 0x80 ∧ (0xBF : UInt8).toNat = 0xBF := ⟨rfl, rfl⟩

theorem decodeFrom_two (low : 0x80 ≤ n) (high : n < 0x800) :
    decodeFrom index none (.ofNat (0xC0 + n / 64) :: .ofNat (0x80 + n % 64) :: rest) =
      (decodeFrom (index + 1 + 1) none rest).map (.ofNat n :: ·) := by
  have byte := toNat_byte (n := 0xC0 + n / 64) (by omega)
  have next := toNat_byte (n := 0x80 + n % 64) (by omega)
  have bits := leadBits_eq (.ofNat (0xC0 + n / 64))
  rw [byte, if_pos (by omega)] at bits
  have whole : leadBits (.ofNat (0xC0 + n / 64)) * 64 + (0x80 + n % 64 - 0x80) = n := by omega
  obtain ⟨least, most⟩ := toNat_spans
  rw [decodeFrom_sequence (lead_of_two (by omega) (by omega)), decodeFrom_last ⟨by omega, by omega⟩, next, whole]

theorem decodeFrom_three (low : 0x800 ≤ n) (high : n < 0x10000) (noHalf : n < 0xD800 ∨ 0xDFFF < n) :
    decodeFrom index none (.ofNat (0xE0 + n / 4096) :: .ofNat (0x80 + n / 64 % 64) :: .ofNat (0x80 + n % 64) :: rest) =
      (decodeFrom (index + 1 + 1 + 1) none rest).map (.ofNat n :: ·) := by
  have byte := toNat_byte (n := 0xE0 + n / 4096) (by omega)
  have next := toNat_byte (n := 0x80 + n / 64 % 64) (by omega)
  have last := toNat_byte (n := 0x80 + n % 64) (by omega)
  have bits := leadBits_eq (.ofNat (0xE0 + n / 4096))
  rw [byte, if_neg (by omega), if_pos (by omega)] at bits
  obtain ⟨first, final, led, ofFirst, ofFinal⟩ := lead_of_three (b := .ofNat (0xE0 + n / 4096)) (by omega) (by omega)
  rw [byte] at ofFirst ofFinal
  have whole : (leadBits (.ofNat (0xE0 + n / 4096)) * 64 + (0x80 + n / 64 % 64 - 0x80)) * 64 + (0x80 + n % 64 - 0x80) = n := by
    omega
  obtain ⟨least, most⟩ := toNat_spans
  have within : first.toNat ≤ 0x80 + n / 64 % 64 ∧ 0x80 + n / 64 % 64 ≤ final.toNat := by
    split at ofFirst <;> split at ofFinal <;> omega
  rw [decodeFrom_sequence led, decodeFrom_within (next.symm ▸ within), decodeFrom_last ⟨by omega, by omega⟩, next, last, whole]

theorem decodeFrom_four (low : 0x10000 ≤ n) (high : n < 0x110000) :
    decodeFrom index none (.ofNat (0xF0 + n / 262144) :: .ofNat (0x80 + n / 4096 % 64) :: .ofNat (0x80 + n / 64 % 64) ::
        .ofNat (0x80 + n % 64) :: rest) =
      (decodeFrom (index + 1 + 1 + 1 + 1) none rest).map (.ofNat n :: ·) := by
  have byte := toNat_byte (n := 0xF0 + n / 262144) (by omega)
  have next := toNat_byte (n := 0x80 + n / 4096 % 64) (by omega)
  have third := toNat_byte (n := 0x80 + n / 64 % 64) (by omega)
  have last := toNat_byte (n := 0x80 + n % 64) (by omega)
  have bits := leadBits_eq (.ofNat (0xF0 + n / 262144))
  rw [byte, if_neg (by omega), if_neg (by omega)] at bits
  obtain ⟨first, final, led, ofFirst, ofFinal⟩ := lead_of_four (b := .ofNat (0xF0 + n / 262144)) (by omega) (by omega)
  rw [byte] at ofFirst ofFinal
  have whole : ((leadBits (.ofNat (0xF0 + n / 262144)) * 64 + (0x80 + n / 4096 % 64 - 0x80)) * 64 +
      (0x80 + n / 64 % 64 - 0x80)) * 64 + (0x80 + n % 64 - 0x80) = n := by omega
  obtain ⟨least, most⟩ := toNat_spans
  have within : first.toNat ≤ 0x80 + n / 4096 % 64 ∧ 0x80 + n / 4096 % 64 ≤ final.toNat := by
    split at ofFirst <;> split at ofFinal <;> omega
  rw [decodeFrom_sequence led, decodeFrom_within (next.symm ▸ within), decodeFrom_within ⟨by omega, by omega⟩,
    decodeFrom_last ⟨by omega, by omega⟩, next, third, last, whole]

theorem decodeFrom_encodeOne (index : Nat) (rest : Bytes) (c : Char) : ∃ later, decodeFrom index none (encodeOne c ++ rest) =
    (decodeFrom later none rest).map (.char c :: ·) := by
  have number : CodePoint.ofNat c.toNat = .char c := CodePoint.ofNat_toNat (.char c)
  have range := CodePoint.char_range c
  rw [← number]
  unfold encodeOne
  dsimp only
  split_ifs with one two three
  · refine ⟨index + 1, ?_⟩
    have byte := toNat_byte (n := c.toNat) (by omega)
    rw [List.singleton_append, decodeFrom]
    simp only [lead_of_one (b := .ofNat c.toNat) (by omega), byte]
  · exact ⟨_, decodeFrom_two (by omega) two⟩
  · exact ⟨_, decodeFrom_three (by omega) three (by omega)⟩
  · exact ⟨_, decodeFrom_four (by omega) (by omega)⟩

theorem decode_of_encode (encoded : encode text = .ok bytes) : decode bytes = .ok text := by
  have each : ∀ (text : Text) (bytes : Bytes) (index later : Nat), encodeFrom index text = .ok bytes →
      decodeFrom later none bytes = .ok text := by
    intro text
    induction text with
    | nil =>
      intro bytes index later encoded
      cases encoded
      rfl
    | cons c rest ih =>
      intro bytes index later encoded
      cases c with
      | surrogate half => cases encoded
      | char c =>
        obtain ⟨more, remaining, rfl⟩ := map_eq_ok_iff.mp encoded
        obtain ⟨behind, same⟩ := decodeFrom_encodeOne later more c
        rw [same, ih more (index + 1) behind remaining]
        rfl
  exact each text bytes 0 0 encoded

theorem lt_of_ascii (led : lead b = .ascii) : b.toNat < 0x80 := by
  by_contra above
  simp only [lead, UInt8.lt_iff_toNat_lt] at led
  rw [if_neg (by exact above)] at led
  split_ifs at led

-- What a first byte asks for tells the span that it lies in itself.
inductive Asks (b : UInt8) : Nat → UInt8 → UInt8 → Prop where
  | two (above : 0xC2 ≤ b.toNat) (below : b.toNat < 0xE0) : Asks b 1 0x80 0xBF
  | three {low high : UInt8} (above : 0xE0 ≤ b.toNat) (below : b.toNat < 0xF0)
      (ofLow : low.toNat = if b.toNat = 0xE0 then 0xA0 else 0x80)
      (ofHigh : high.toNat = if b.toNat = 0xED then 0x9F else 0xBF) : Asks b 2 low high
  | four {low high : UInt8} (above : 0xF0 ≤ b.toNat) (below : b.toNat < 0xF5)
      (ofLow : low.toNat = if b.toNat = 0xF0 then 0x90 else 0x80)
      (ofHigh : high.toNat = if b.toNat = 0xF4 then 0x8F else 0xBF) : Asks b 3 low high

theorem asks_of_lead (led : lead b = .sequence more low high) : Asks b more low high := by
  by_cases one : b.toNat < 0xC2
  · simp only [lead, UInt8.lt_iff_toNat_lt] at led
    split_ifs at led
    all_goals contradiction
  · by_cases two : b.toNat < 0xE0
    · cases (lead_of_two (by omega) two).symm.trans led
      exact .two (by omega) two
    · by_cases three : b.toNat < 0xF0
      · obtain ⟨_, _, same, ofLow, ofHigh⟩ := lead_of_three (by omega) three
        cases same.symm.trans led
        exact .three (by omega) three ofLow ofHigh
      · by_cases four : b.toNat < 0xF5
        · obtain ⟨_, _, same, ofLow, ofHigh⟩ := lead_of_four (by omega) four
          cases same.symm.trans led
          exact .four (by omega) four ofLow ofHigh
        · simp only [lead, UInt8.lt_iff_toNat_lt, ← UInt8.toNat_inj, UInt8.reduceToNat] at led
          split_ifs at led <;> omega

theorem within_of_decodeFrom {more : Nat}
    (decoded : decodeFrom index (some ⟨value, more, low, high, byte, first, count⟩) bytes = .ok text) :
    ∃ b rest, bytes = b :: rest ∧ low.toNat ≤ b.toNat ∧ b.toNat ≤ high.toNat := by
  cases bytes with
  | nil => cases decoded
  | cons b rest =>
    refine ⟨b, rest, rfl, ?_⟩
    by_contra outside
    rw [decodeFrom] at decoded
    simp only [UInt8.lt_iff_toNat_lt] at decoded
    rw [if_pos (by omega)] at decoded
    cases decoded

theorem decodeFrom_of_owed
    (decoded : decodeFrom index (some ⟨value, left + 2, low, high, byte, first, count⟩) bytes = .ok text) :
    ∃ b rest, bytes = b :: rest ∧ low.toNat ≤ b.toNat ∧ b.toNat ≤ high.toNat ∧
      decodeFrom (index + 1) (some ⟨value * 64 + (b.toNat - 0x80), left + 1, 0x80, 0xBF, byte, first, count + 1⟩) rest =
        .ok text := by
  obtain ⟨b, rest, rfl, above, below⟩ := within_of_decodeFrom decoded
  rw [decodeFrom_within ⟨above, below⟩] at decoded
  exact ⟨b, rest, rfl, above, below, decoded⟩

theorem decodeFrom_of_last
    (decoded : decodeFrom index (some ⟨value, 1, low, high, byte, first, count⟩) bytes = .ok text) :
    ∃ b rest later, bytes = b :: rest ∧ low.toNat ≤ b.toNat ∧ b.toNat ≤ high.toNat ∧
      decodeFrom (index + 1) none rest = .ok later ∧ text = .ofNat (value * 64 + (b.toNat - 0x80)) :: later := by
  obtain ⟨b, rest, rfl, above, below⟩ := within_of_decodeFrom decoded
  rw [decodeFrom_last ⟨above, below⟩] at decoded
  obtain ⟨later, remaining, rfl⟩ := map_eq_ok_iff.mp decoded
  exact ⟨b, rest, later, rfl, above, below, remaining, rfl⟩

theorem byte_of_toNat (same : n = b.toNat) : UInt8.ofNat n = b := by
  rw [same, UInt8.ofNat_toNat]

def Begins (bytes : Bytes) (text : Text) : Prop :=
  ∃ c more later behind, bytes = encodeOne c ++ more ∧ text = .char c :: later ∧ decodeFrom behind none more = .ok later

theorem begins_of_number (spelled : Bytes) {later : Text} {behind : Nat} (small : n < 0x110000)
    (noHalf : n < 0xD800 ∨ 0xDFFF < n) (written : ∀ c : Char, c.toNat = n → encodeOne c = spelled)
    (remaining : decodeFrom behind none rest = .ok later) : Begins (spelled ++ rest) (.ofNat n :: later) := by
  have number := CodePoint.toNat_ofNat small
  cases same : CodePoint.ofNat n with
  | char c =>
    rw [same] at number
    exact ⟨c, rest, later, behind, by rw [written c number], rfl, remaining⟩
  | surrogate offset =>
    have half := CodePoint.toNat_surrogate offset
    rw [← same, number] at half
    omega

theorem begins_two {start : Nat} (above : 0xC2 ≤ b.toNat) (below : b.toNat < 0xE0)
    (decoded : decodeFrom index (some ⟨leadBits b, 1, 0x80, 0xBF, b, start, 1⟩) rest = .ok text) : Begins (b :: rest) text := by
  have bits := leadBits_eq b
  rw [if_pos below] at bits
  obtain ⟨least, most⟩ := toNat_spans
  obtain ⟨second, rest, later, rfl, fromTwo, toTwo, remaining, rfl⟩ := decodeFrom_of_last decoded
  refine begins_of_number [b, second] (by omega) (by omega) (fun c number => ?_) remaining
  rw [encodeOne, number, if_neg (by omega), if_pos (by omega), byte_of_toNat (b := b) (by omega),
    byte_of_toNat (b := second) (by omega)]

theorem begins_three {start : Nat} (above : 0xE0 ≤ b.toNat) (below : b.toNat < 0xF0)
    (ofLow : low.toNat = if b.toNat = 0xE0 then 0xA0 else 0x80) (ofHigh : high.toNat = if b.toNat = 0xED then 0x9F else 0xBF)
    (decoded : decodeFrom index (some ⟨leadBits b, 2, low, high, b, start, 1⟩) rest = .ok text) : Begins (b :: rest) text := by
  have bits := leadBits_eq b
  rw [if_neg (by omega), if_pos below] at bits
  obtain ⟨least, most⟩ := toNat_spans
  obtain ⟨second, rest, rfl, fromTwo, toTwo, decoded⟩ := decodeFrom_of_owed decoded
  obtain ⟨third, rest, later, rfl, fromThree, toThree, remaining, rfl⟩ := decodeFrom_of_last decoded
  -- The span of the second byte shuts out what fewer bytes could spell, and the halves.
  have wide : 0x80 ≤ second.toNat ∧ second.toNat ≤ 0xBF := by split at ofLow <;> split at ofHigh <;> omega
  have long : 0xA0 ≤ second.toNat ∨ b.toNat ≠ 0xE0 := by split at ofLow <;> omega
  have whole : second.toNat ≤ 0x9F ∨ b.toNat ≠ 0xED := by split at ofHigh <;> omega
  refine begins_of_number [b, second, third] (by omega) (by omega) (fun c number => ?_) remaining
  rw [encodeOne, number, if_neg (by omega), if_neg (by omega), if_pos (by omega), byte_of_toNat (b := b) (by omega),
    byte_of_toNat (b := second) (by omega), byte_of_toNat (b := third) (by omega)]

theorem begins_four {start : Nat} (above : 0xF0 ≤ b.toNat) (below : b.toNat < 0xF5)
    (ofLow : low.toNat = if b.toNat = 0xF0 then 0x90 else 0x80) (ofHigh : high.toNat = if b.toNat = 0xF4 then 0x8F else 0xBF)
    (decoded : decodeFrom index (some ⟨leadBits b, 3, low, high, b, start, 1⟩) rest = .ok text) : Begins (b :: rest) text := by
  have bits := leadBits_eq b
  rw [if_neg (by omega), if_neg (by omega)] at bits
  obtain ⟨least, most⟩ := toNat_spans
  obtain ⟨second, rest, rfl, fromTwo, toTwo, decoded⟩ := decodeFrom_of_owed decoded
  obtain ⟨third, rest, rfl, fromThree, toThree, decoded⟩ := decodeFrom_of_owed decoded
  obtain ⟨fourth, rest, later, rfl, fromFour, toFour, remaining, rfl⟩ := decodeFrom_of_last decoded
  have wide : 0x80 ≤ second.toNat ∧ second.toNat ≤ 0xBF := by split at ofLow <;> split at ofHigh <;> omega
  have long : 0x90 ≤ second.toNat ∨ b.toNat ≠ 0xF0 := by split at ofLow <;> omega
  have small : second.toNat ≤ 0x8F ∨ b.toNat ≠ 0xF4 := by split at ofHigh <;> omega
  refine begins_of_number [b, second, third, fourth] (by omega) (by omega) (fun c number => ?_) remaining
  rw [encodeOne, number, if_neg (by omega), if_neg (by omega), if_neg (by omega), byte_of_toNat (b := b) (by omega),
    byte_of_toNat (b := second) (by omega), byte_of_toNat (b := third) (by omega), byte_of_toNat (b := fourth) (by omega)]

theorem begins_of_decodeFrom (decoded : decodeFrom index none (b :: rest) = .ok text) : Begins (b :: rest) text := by
  cases led : lead b with
  | invalid =>
    rw [decodeFrom] at decoded
    simp only [led] at decoded
    cases decoded
  | ascii =>
    rw [decodeFrom] at decoded
    simp only [led] at decoded
    obtain ⟨later, remaining, rfl⟩ := map_eq_ok_iff.mp decoded
    have one := lt_of_ascii led
    refine begins_of_number [b] (by omega) (by omega) (fun c number => ?_) remaining
    rw [encodeOne, number, if_pos one, UInt8.ofNat_toNat]
  | sequence more low high =>
    rw [decodeFrom_sequence led] at decoded
    cases asks_of_lead led with
    | two above below => exact begins_two above below decoded
    | three above below ofLow ofHigh => exact begins_three above below ofLow ofHigh decoded
    | four above below ofLow ofHigh => exact begins_four above below ofLow ofHigh decoded

theorem encode_of_decode (decoded : decode bytes = .ok text) : encode text = .ok bytes := by
  -- By induction on the text, since a character may take more bytes than the first of them.
  have each : ∀ (text : Text) (bytes : Bytes) (index later : Nat), decodeFrom index none bytes = .ok text →
      encodeFrom later text = .ok bytes := by
    intro text
    induction text with
    | nil =>
      intro bytes index later decoded
      cases bytes with
      | nil => rfl
      | cons b rest =>
        obtain ⟨_, _, _, _, _, none, _⟩ := begins_of_decodeFrom decoded
        cases none
    | cons c text ih =>
      intro bytes index later decoded
      cases bytes with
      | nil => cases decoded
      | cons b rest =>
        obtain ⟨_, more, _, behind, written, same, remaining⟩ := begins_of_decodeFrom decoded
        cases same
        rw [written, encodeFrom, ih more behind (later + 1) remaining]
        rfl
  exact each text bytes 0 0 decoded

theorem exists_encode_iff : (∃ bytes, encode text = .ok bytes) ↔ ¬text.any isHalf := by
  unfold encode
  generalize 0 = index
  induction text generalizing index with
  | nil => simp [encodeFrom]
  | cons c rest ih =>
    cases c with
    | char c =>
      simp only [encodeFrom, map_eq_ok_iff, List.any_cons, isHalf, Bool.false_or]
      rw [← ih (index + 1)]
      constructor
      · intro held
        obtain ⟨_, later, encoded, -⟩ := held
        exact ⟨later, encoded⟩
      · intro held
        obtain ⟨later, encoded⟩ := held
        exact ⟨_, later, encoded, rfl⟩
    | surrogate offset => simp [encodeFrom, isHalf]

end ChangeCapture.Utf8
