import DeskCalculator.Text.LineBreak

/-! Texts in files. The bytes of a text are decoded to the same text, and no other bytes are decoded.
Line breaks are kept where none of them has a carriage return. -/

namespace DeskCalculator

namespace Utf8

theorem toNat_ofNat {value : Nat} (small : value < 256) : (UInt8.ofNat value).toNat = value := by
  rw [UInt8.toNat_ofNat', Nat.mod_eq_of_lt small]

theorem decodeFrom_lead {position : Nat} {byte : UInt8} {pending : Pending}
    (promised : lead? position byte = some pending) (owed : pending.owed ≠ 0) (rest : List UInt8) :
    decodeFrom position none (byte :: rest) = decodeFrom (position + 1) (some pending) rest := by
  rw [decodeFrom, promised]
  exact if_neg owed

theorem decodeFrom_middle {pending : Pending} {byte : Nat} (small : byte < 256)
    (owed : pending.owed ≠ 1) (low : pending.low ≤ byte) (high : byte ≤ pending.high)
    (position : Nat) (rest : List UInt8) :
    decodeFrom position (some pending) (.ofNat byte :: rest) =
      decodeFrom (position + 1) (some ⟨pending.start, pending.first, pending.owed - 1, 0x80, 0xBF,
        pending.code * 64 + (byte - 0x80)⟩) rest := by
  rw [decodeFrom, toNat_ofNat small]
  dsimp only
  rw [if_pos ⟨low, high⟩, if_neg owed]

theorem decodeFrom_last {pending : Pending} {byte : Nat} (small : byte < 256)
    (owed : pending.owed = 1) (low : pending.low ≤ byte) (high : byte ≤ pending.high)
    (position : Nat) (rest : List UInt8) :
    decodeFrom position (some pending) (.ofNat byte :: rest) =
      (decodeFrom (position + 1) none rest).map
        (.ofNat (pending.code * 64 + (byte - 0x80)) :: ·) := by
  rw [decodeFrom, toNat_ofNat small]
  dsimp only
  rw [if_pos ⟨low, high⟩, if_pos owed]

/-- The first of two bytes. -/
theorem lead?_two {code : Nat} (large : 0x80 ≤ code) (small : code < 0x800) (position : Nat) :
    lead? position (.ofNat (0xC0 + code / 64)) =
      some ⟨position, .ofNat (0xC0 + code / 64), 1, 0x80, 0xBF, code / 64⟩ := by
  have value : (UInt8.ofNat (0xC0 + code / 64)).toNat = 0xC0 + code / 64 :=
    toNat_ofNat (by omega)
  simp only [lead?, value]
  rw [if_neg (by omega), if_neg (by omega), if_pos (by omega), Nat.add_sub_cancel_left]

/-- The first of three bytes leaves room for the second one. No character lies between U+D800 and
U+DFFF, where it would not. -/
theorem lead?_three {code : Nat} (large : 0x800 ≤ code) (small : code < 0x10000)
    (scalar : code < 0xD800 ∨ 0xDFFF < code) (position : Nat) :
    ∃ low high, lead? position (.ofNat (0xE0 + code / 4096)) =
        some ⟨position, .ofNat (0xE0 + code / 4096), 2, low, high, code / 4096⟩ ∧
      low ≤ 0x80 + code / 64 % 64 ∧ 0x80 + code / 64 % 64 ≤ high := by
  have value : (UInt8.ofNat (0xE0 + code / 4096)).toNat = 0xE0 + code / 4096 :=
    toNat_ofNat (by omega)
  simp only [lead?, value]
  rw [if_neg (by omega), if_neg (by omega), if_neg (by omega), Nat.add_sub_cancel_left]
  by_cases first : 0xE0 + code / 4096 = 0xE0
  · exact ⟨0xA0, 0xBF, if_pos first, by omega, by omega⟩
  · rw [if_neg first]
    by_cases surrogates : 0xE0 + code / 4096 = 0xED
    · exact ⟨0x80, 0x9F, if_pos surrogates, by omega, by omega⟩
    · rw [if_neg surrogates, if_pos (by omega)]
      exact ⟨0x80, 0xBF, rfl, by omega, by omega⟩

theorem lead?_four {code : Nat} (large : 0x10000 ≤ code) (small : code < 0x110000)
    (position : Nat) :
    ∃ low high, lead? position (.ofNat (0xF0 + code / 262144)) =
        some ⟨position, .ofNat (0xF0 + code / 262144), 3, low, high, code / 262144⟩ ∧
      low ≤ 0x80 + code / 4096 % 64 ∧ 0x80 + code / 4096 % 64 ≤ high := by
  have value : (UInt8.ofNat (0xF0 + code / 262144)).toNat = 0xF0 + code / 262144 :=
    toNat_ofNat (by omega)
  simp only [lead?, value]
  rw [if_neg (by omega), if_neg (by omega), if_neg (by omega), if_neg (by omega),
    if_neg (by omega), if_neg (by omega), Nat.add_sub_cancel_left]
  by_cases first : 0xF0 + code / 262144 = 0xF0
  · exact ⟨0x90, 0xBF, if_pos first, by omega, by omega⟩
  · rw [if_neg first]
    by_cases middle : 0xF0 + code / 262144 < 0xF4
    · exact ⟨0x80, 0xBF, if_pos middle, by omega, by omega⟩
    · rw [if_neg middle, if_pos (by omega)]
      exact ⟨0x80, 0x8F, rfl, by omega, by omega⟩

theorem decodeFrom_one {code : Nat} (small : code < 0x80) (position : Nat) (rest : List UInt8) :
    decodeFrom position none (.ofNat code :: rest) =
      (decodeFrom (position + 1) none rest).map (.ofNat code :: ·) := by
  have promised : lead? position (.ofNat code) =
      some ⟨position, .ofNat code, 0, 0x80, 0xBF, code⟩ := by
    have value : (UInt8.ofNat code).toNat = code := toNat_ofNat (by omega)
    simp only [lead?, value]
    exact if_pos small
  rw [decodeFrom, promised]
  exact if_pos rfl

theorem decodeFrom_two {code : Nat} (large : 0x80 ≤ code) (small : code < 0x800) (position : Nat)
    (rest : List UInt8) :
    decodeFrom position none
        (.ofNat (0xC0 + code / 64) :: .ofNat (0x80 + code % 64) :: rest) =
      (decodeFrom (position + 2) none rest).map (.ofNat code :: ·) := by
  have whole : code / 64 * 64 + (0x80 + code % 64 - 0x80) = code := by omega
  rw [decodeFrom_lead (lead?_two large small position) Nat.one_ne_zero,
    decodeFrom_last (by omega) rfl (by dsimp only; omega) (by dsimp only; omega), whole]

theorem decodeFrom_three {code : Nat} (large : 0x800 ≤ code) (small : code < 0x10000)
    (scalar : code < 0xD800 ∨ 0xDFFF < code) (position : Nat) (rest : List UInt8) :
    decodeFrom position none
        (.ofNat (0xE0 + code / 4096) :: .ofNat (0x80 + code / 64 % 64) ::
          .ofNat (0x80 + code % 64) :: rest) =
      (decodeFrom (position + 3) none rest).map (.ofNat code :: ·) := by
  obtain ⟨low, high, promised, above, below⟩ := lead?_three large small scalar position
  have whole : (code / 4096 * 64 + (0x80 + code / 64 % 64 - 0x80)) * 64 +
      (0x80 + code % 64 - 0x80) = code := by omega
  rw [decodeFrom_lead promised (Nat.succ_ne_zero 1),
    decodeFrom_middle (by omega) (Nat.succ_succ_ne_one 0) above below,
    decodeFrom_last (by omega) rfl (by dsimp only; omega) (by dsimp only; omega), whole]

theorem decodeFrom_four {code : Nat} (large : 0x10000 ≤ code) (small : code < 0x110000)
    (position : Nat) (rest : List UInt8) :
    decodeFrom position none
        (.ofNat (0xF0 + code / 262144) :: .ofNat (0x80 + code / 4096 % 64) ::
          .ofNat (0x80 + code / 64 % 64) :: .ofNat (0x80 + code % 64) :: rest) =
      (decodeFrom (position + 4) none rest).map (.ofNat code :: ·) := by
  obtain ⟨low, high, promised, above, below⟩ := lead?_four large small position
  have whole : ((code / 262144 * 64 + (0x80 + code / 4096 % 64 - 0x80)) * 64 +
      (0x80 + code / 64 % 64 - 0x80)) * 64 + (0x80 + code % 64 - 0x80) = code := by omega
  rw [decodeFrom_lead promised (Nat.succ_ne_zero 2),
    decodeFrom_middle (by omega) (Nat.succ_succ_ne_one 1) above below,
    decodeFrom_middle (by omega) (Nat.succ_succ_ne_one 0) (by dsimp only; omega)
      (by dsimp only; omega),
    decodeFrom_last (by omega) rfl (by dsimp only; omega) (by dsimp only; omega), whole]

theorem decodeFrom_encodeCharacter (character : Char) (position : Nat) (rest : List UInt8) :
    ∃ next, decodeFrom position none (encodeCharacter character ++ rest) =
      (decodeFrom next none rest).map (character :: ·) := by
  have scalar : character.toNat < 0xD800 ∨
      0xDFFF < character.toNat ∧ character.toNat < 0x110000 := character.valid
  have self : Char.ofNat character.toNat = character := Char.ofNat_toNat character
  unfold encodeCharacter
  generalize character.toNat = code at scalar self
  dsimp only
  by_cases one : code < 0x80
  · rw [if_pos one]
    exact ⟨position + 1, self ▸ decodeFrom_one one position rest⟩
  · rw [if_neg one]
    by_cases two : code < 0x800
    · rw [if_pos two]
      exact ⟨position + 2, self ▸ decodeFrom_two (by omega) two position rest⟩
    · rw [if_neg two]
      by_cases three : code < 0x10000
      · rw [if_pos three]
        exact ⟨position + 3,
          self ▸ decodeFrom_three (by omega) three (by omega) position rest⟩
      · rw [if_neg three]
        exact ⟨position + 4, self ▸ decodeFrom_four (by omega) (by omega) position rest⟩

theorem decode_encode (text : List Char) : decode (encode text) = .ok text := by
  have fromAnywhere (position : Nat) : decodeFrom position none (encode text) = .ok text := by
    induction text generalizing position with
    | nil => rfl
    | cons character rest inductionHypothesis =>
        obtain ⟨next, read⟩ := decodeFrom_encodeCharacter character position (encode rest)
        change decodeFrom position none (encodeCharacter character ++ encode rest) = _
        rw [read, inductionHypothesis next]
        rfl
  exact fromAnywhere 0

theorem toNat_charOfNat {code : Nat} (scalar : code.isValidChar) :
    (Char.ofNat code).toNat = code := by
  rw [Char.ofNat, dif_pos scalar]
  rfl

/-- What a first byte promises. Three bytes leave out what fits in two and the surrogates, and four
bytes what fits in three and what is too large. -/
inductive Promised (position : Nat) (byte : UInt8) : Pending → Prop
  | one : byte.toNat < 0x80 → Promised position byte ⟨position, byte, 0, 0x80, 0xBF, byte.toNat⟩
  | two : 0xC2 ≤ byte.toNat → byte.toNat < 0xE0 →
      Promised position byte ⟨position, byte, 1, 0x80, 0xBF, byte.toNat - 0xC0⟩
  | three (low high : Nat) : 0xE0 ≤ byte.toNat → byte.toNat < 0xF0 →
      0x80 ≤ low → high ≤ 0xBF → (byte.toNat = 0xE0 → 0xA0 ≤ low) →
      (byte.toNat = 0xED → high ≤ 0x9F) →
      Promised position byte ⟨position, byte, 2, low, high, byte.toNat - 0xE0⟩
  | four (low high : Nat) : 0xF0 ≤ byte.toNat → byte.toNat ≤ 0xF4 →
      0x80 ≤ low → high ≤ 0xBF → (byte.toNat = 0xF0 → 0x90 ≤ low) →
      (byte.toNat = 0xF4 → high ≤ 0x8F) →
      Promised position byte ⟨position, byte, 3, low, high, byte.toNat - 0xF0⟩

theorem promised_of_lead? {position : Nat} {byte : UInt8} {pending : Pending}
    (lead : lead? position byte = some pending) : Promised position byte pending := by
  unfold lead? at lead
  dsimp only at lead
  repeat' split at lead
  all_goals cases lead
  · exact .one ‹_›
  · exact .two (by omega) ‹_›
  all_goals first
    | exact .three _ _ (by omega) (by omega) (by omega) (by omega) (by omega) (by omega)
    | exact .four _ _ (by omega) (by omega) (by omega) (by omega) (by omega) (by omega)

/-- A byte that follows lies in the bounds. -/
theorem of_decodeFrom_some {position : Nat} {pending : Pending} {bytes : List UInt8}
    {text : List Char} (done : decodeFrom position (some pending) bytes = .ok text) :
    ∃ byte rest, bytes = byte :: rest ∧ pending.low ≤ byte.toNat ∧ byte.toNat ≤ pending.high ∧
      if pending.owed = 1 then
        ∃ others, text = .ofNat (pending.code * 64 + (byte.toNat - 0x80)) :: others ∧
          decodeFrom (position + 1) none rest = .ok others
      else
        decodeFrom (position + 1) (some ⟨pending.start, pending.first, pending.owed - 1, 0x80, 0xBF,
          pending.code * 64 + (byte.toNat - 0x80)⟩) rest = .ok text := by
  cases bytes with
  | nil => cases done
  | cons byte rest =>
      rw [decodeFrom] at done
      dsimp only at done
      split at done
      · rename_i bounds
        refine ⟨byte, rest, rfl, bounds.1, bounds.2, ?_⟩
        split at done
        · rename_i last
          rw [if_pos last]
          cases read : decodeFrom (position + 1) none rest with
          | error fault =>
              rw [read] at done
              cases done
          | ok others =>
              rw [read] at done
              cases done
              exact ⟨others, rfl, rfl⟩
        · rename_i more
          rw [if_neg more]
          exact done
      · cases done


theorem ofNat_of_toNat (byte : UInt8) {value : Nat} (same : value = byte.toNat) :
    UInt8.ofNat value = byte := by
  rw [same, UInt8.ofNat_toNat]

theorem encodeCharacter_one {byte : UInt8} (small : byte.toNat < 0x80) :
    encodeCharacter (.ofNat byte.toNat) = [byte] := by
  rw [encodeCharacter, toNat_charOfNat (.inl (by omega)), if_pos small, UInt8.ofNat_toNat]

theorem encodeCharacter_two {first second : UInt8} (above : 0xC2 ≤ first.toNat)
    (below : first.toNat < 0xE0) (low : 0x80 ≤ second.toNat) (high : second.toNat ≤ 0xBF) :
    encodeCharacter (.ofNat ((first.toNat - 0xC0) * 64 + (second.toNat - 0x80))) =
      [first, second] := by
  rw [encodeCharacter, toNat_charOfNat (.inl (by omega))]
  rw [if_neg (by omega), if_pos (by omega), ofNat_of_toNat first (by omega),
    ofNat_of_toNat second (by omega)]

theorem encodeCharacter_three {first second third : UInt8} (above : 0xE0 ≤ first.toNat)
    (below : first.toNat < 0xF0) (low : 0x80 ≤ second.toNat) (high : second.toNat ≤ 0xBF)
    (shortest : first.toNat = 0xE0 → 0xA0 ≤ second.toNat)
    (scalar : first.toNat = 0xED → second.toNat ≤ 0x9F)
    (lowToo : 0x80 ≤ third.toNat) (highToo : third.toNat ≤ 0xBF) :
    encodeCharacter (.ofNat (((first.toNat - 0xE0) * 64 + (second.toNat - 0x80)) * 64 +
      (third.toNat - 0x80))) = [first, second, third] := by
  have valid : Nat.isValidChar (((first.toNat - 0xE0) * 64 + (second.toNat - 0x80)) * 64 +
      (third.toNat - 0x80)) := by
    unfold Nat.isValidChar
    omega
  rw [encodeCharacter, toNat_charOfNat valid]
  rw [if_neg (by omega), if_neg (by omega), if_pos (by omega),
    ofNat_of_toNat first (by omega), ofNat_of_toNat second (by omega),
    ofNat_of_toNat third (by omega)]

theorem encodeCharacter_four {first second third fourth : UInt8} (above : 0xF0 ≤ first.toNat)
    (below : first.toNat ≤ 0xF4) (low : 0x80 ≤ second.toNat) (high : second.toNat ≤ 0xBF)
    (shortest : first.toNat = 0xF0 → 0x90 ≤ second.toNat)
    (scalar : first.toNat = 0xF4 → second.toNat ≤ 0x8F)
    (lowToo : 0x80 ≤ third.toNat) (highToo : third.toNat ≤ 0xBF)
    (lowLast : 0x80 ≤ fourth.toNat) (highLast : fourth.toNat ≤ 0xBF) :
    encodeCharacter (.ofNat ((((first.toNat - 0xF0) * 64 + (second.toNat - 0x80)) * 64 +
      (third.toNat - 0x80)) * 64 + (fourth.toNat - 0x80))) = [first, second, third, fourth] := by
  have valid : Nat.isValidChar ((((first.toNat - 0xF0) * 64 + (second.toNat - 0x80)) * 64 +
      (third.toNat - 0x80)) * 64 + (fourth.toNat - 0x80)) := by
    unfold Nat.isValidChar
    omega
  rw [encodeCharacter, toNat_charOfNat valid]
  rw [if_neg (by omega), if_neg (by omega), if_neg (by omega),
    ofNat_of_toNat first (by omega), ofNat_of_toNat second (by omega),
    ofNat_of_toNat third (by omega), ofNat_of_toNat fourth (by omega)]

/-- What is decoded first is the character that the first bytes encode. -/
theorem of_decodeFrom_cons {position : Nat} {byte : UInt8} {bytes : List UInt8} {text : List Char}
    (done : decodeFrom position none (byte :: bytes) = .ok text) :
    ∃ character others next rest, text = character :: others ∧
      byte :: bytes = encodeCharacter character ++ rest ∧
      decodeFrom next none rest = .ok others := by
  rw [decodeFrom] at done
  cases lead : lead? position byte with
  | none =>
      rw [lead] at done
      cases done
  | some pending =>
      rw [lead] at done
      dsimp only at done
      cases promised_of_lead? lead with
      | one small =>
          rw [if_pos rfl] at done
          cases read : decodeFrom (position + 1) none bytes with
          | error fault =>
              rw [read] at done
              cases done
          | ok others =>
              rw [read] at done
              cases done
              exact ⟨_, others, _, bytes, rfl, by rw [encodeCharacter_one small]; rfl, read⟩
      | two above below =>
          rw [if_neg Nat.one_ne_zero] at done
          obtain ⟨second, rest, rfl, low, high, last⟩ := of_decodeFrom_some done
          obtain ⟨others, rfl, after⟩ := last
          exact ⟨_, others, _, rest, rfl, by rw [encodeCharacter_two above below low high]; rfl, after⟩
      | three bottom top above below low high shortest scalar =>
          rw [if_neg (Nat.succ_ne_zero 1)] at done
          obtain ⟨second, rest, rfl, atLeast, atMost, more⟩ := of_decodeFrom_some done
          obtain ⟨third, rest, rfl, lowToo, highToo, last⟩ := of_decodeFrom_some more
          obtain ⟨others, rfl, after⟩ := last
          dsimp only at atLeast atMost lowToo highToo
          have encoded := @encodeCharacter_three byte second third above below (by omega) (by omega)
            (by omega) (by omega) lowToo highToo
          exact ⟨_, others, _, rest, rfl, by rw [encoded]; rfl, after⟩
      | four bottom top above below low high shortest scalar =>
          rw [if_neg (Nat.succ_ne_zero 2)] at done
          obtain ⟨second, rest, rfl, atLeast, atMost, more⟩ := of_decodeFrom_some done
          obtain ⟨third, rest, rfl, lowToo, highToo, evenMore⟩ := of_decodeFrom_some more
          obtain ⟨fourth, rest, rfl, lowLast, highLast, last⟩ := of_decodeFrom_some evenMore
          obtain ⟨others, rfl, after⟩ := last
          dsimp only at atLeast atMost lowToo highToo lowLast highLast
          have encoded := @encodeCharacter_four byte second third fourth above below (by omega)
            (by omega) (by omega) (by omega) lowToo highToo lowLast highLast
          exact ⟨_, others, _, rest, rfl, by rw [encoded]; rfl, after⟩

theorem encode_of_decodeFrom {position : Nat} {bytes : List UInt8} {text : List Char}
    (done : decodeFrom position none bytes = .ok text) : bytes = encode text := by
  induction text generalizing position bytes with
  | nil =>
      cases bytes with
      | nil => rfl
      | cons byte bytes =>
          obtain ⟨character, others, next, rest, impossible, _⟩ := of_decodeFrom_cons done
          cases impossible
  | cons character others inductionHypothesis =>
      cases bytes with
      | nil => cases done
      | cons byte bytes =>
          obtain ⟨_, _, next, rest, same, encoded, after⟩ := of_decodeFrom_cons done
          cases same
          rw [encoded, inductionHypothesis after]
          rfl

/-- What is decoded are the texts as they are encoded. -/
theorem decode_eq_ok_iff {bytes : List UInt8} {text : List Char} :
    decode bytes = .ok text ↔ bytes = encode text := by
  constructor
  · exact encode_of_decodeFrom
  · rintro rfl
    exact decode_encode text

theorem encode_append (first second : List Char) :
    encode (first ++ second) = encode first ++ encode second :=
  List.flatMap_append

/-- A text that can be encoded has no surrogates. -/
theorem of_encodeFrom? {position : Nat} {text : CodeText} {bytes : List UInt8}
    (encoded : encodeFrom? position text = .ok bytes) :
    ∃ characters, text = .ofList characters ∧ bytes = encode characters := by
  induction text generalizing position bytes with
  | nil =>
      cases encoded
      exact ⟨[], rfl, rfl⟩
  | cons point rest inductionHypothesis =>
      cases point with
      | surrogate offset => cases encoded
      | scalar character =>
          rw [encodeFrom?] at encoded
          cases others : encodeFrom? (position + 1) rest with
          | error fault =>
              rw [others] at encoded
              cases encoded
          | ok after =>
              rw [others] at encoded
              cases encoded
              obtain ⟨characters, same, written⟩ := inductionHypothesis others
              exact ⟨character :: characters, congrArg (.scalar character :: ·) same,
                congrArg (encodeCharacter character ++ ·) written⟩

end Utf8

namespace Text

theorem unifyLineBreaks_self {text : List Char} (plain : '\r' ∉ text) :
    unifyLineBreaks text = text := by
  induction text with
  | nil => rfl
  | cons character rest inductionHypothesis =>
      have other : character ≠ '\r' := by
        rintro rfl
        exact plain List.mem_cons_self
      have kept := inductionHypothesis fun member => plain (List.mem_cons_of_mem character member)
      rw [unifyLineBreaks]
      · rw [if_neg other, kept]
      · rintro after rfl
        exact absurd rfl other

/-- A text without carriage returns is read from its file as it was. -/
theorem ofFile_encode {text : List Char} (plain : '\r' ∉ text) :
    ofFile (Utf8.encode text) = .ok text := by
  rw [ofFile, Utf8.decode_encode]
  exact congrArg Except.ok (unifyLineBreaks_self plain)

end Text
end DeskCalculator
