import DeskCalculator.Json.Reading
import DeskCalculator.Json.Writing
import DeskCalculator.Proofs.TextFile

/-! Pieces of written data, and strings among them. A text without surrogates is written with escapes,
and each escape is read as the character that it was written for. -/

namespace DeskCalculator.Json

/-! ### Pieces -/

inductive Written : List Piece → List Char → Prop
  | nil : Written [] []
  | cons (content : List Char) {pieces : List Piece} {text : List Char} :
      Written pieces text → Written (.text (.ofList content) :: pieces) (content ++ text)

theorem ofList_injective {first second : List Char}
    (same : CodeText.ofList first = CodeText.ofList second) : first = second := by
  apply (List.map_inj_right ?_).mp same
  intro one other equal
  cases equal
  rfl

theorem ofList_append (first second : List Char) :
    CodeText.ofList (first ++ second) = CodeText.ofList first ++ CodeText.ofList second :=
  List.map_append

theorem Written.split {first second : List Piece} {text : List Char}
    (written : Written (first ++ second) text) :
    ∃ before after, text = before ++ after ∧ Written first before ∧ Written second after := by
  induction first generalizing text with
  | nil => exact ⟨[], text, rfl, .nil, written⟩
  | cons piece rest inductionHypothesis =>
      cases written with
      | cons content others =>
          obtain ⟨before, after, rfl, left, right⟩ := inductionHypothesis others
          exact ⟨content ++ before, after, (List.append_assoc ..).symm, .cons content left, right⟩

theorem Written.single {content : CodeText} {text : List Char}
    (written : Written [.text content] text) : content = .ofList text := by
  cases written with
  | cons content others =>
      cases others
      rw [List.append_nil]

theorem Written.text {content text : List Char}
    (written : Written [.text (.ofList content)] text) : text = content :=
  (ofList_injective written.single).symm

theorem not_written_overlong {pieces : List Piece} {text : List Char} :
    ¬ Written (.overlong :: pieces) text := by
  intro written
  cases written

/-- What is encoded without a fault are the bytes of characters. -/
theorem written_of_encodePieces {pieces : List Piece} {bytes : List UInt8}
    (encoded : encodePieces pieces = (bytes, none)) :
    ∃ text, Written pieces text ∧ bytes = Utf8.encode text := by
  induction pieces generalizing bytes with
  | nil =>
      cases encoded
      exact ⟨[], .nil, rfl⟩
  | cons piece rest inductionHypothesis =>
      rw [encodePieces] at encoded
      cases first : piece.encode? with
      | error fault =>
          rw [first] at encoded
          cases encoded
      | ok start =>
          rw [first] at encoded
          cases others : encodePieces rest with
          | mk after fault =>
              rw [others] at encoded
              cases encoded
              obtain ⟨text, written, rfl⟩ := inductionHypothesis others
              cases piece with
              | overlong => cases first
              | text content =>
                  rw [Piece.encode?] at first
                  cases coded : Utf8.encode? content with
                  | error surrogates =>
                      rw [coded] at first
                      cases first
                  | ok codes =>
                      rw [coded] at first
                      cases first
                      obtain ⟨characters, rfl, rfl⟩ := Utf8.of_encodeFrom? coded
                      exact ⟨characters ++ text, .cons characters written,
                        (Utf8.encode_append characters text).symm⟩

/-! ### Strings -/

theorem hexValue?_digitChar : ∀ digit < 16, hexValue? digit.digitChar = some digit := by
  decide

theorem hexUnit?_control {code : Nat} (small : code < 0x20) :
    hexUnit? '0' '0' (code / 16).digitChar (code % 16).digitChar = some code := by
  have high := hexValue?_digitChar (code / 16) (by omega)
  have low := hexValue?_digitChar (code % 16) (Nat.mod_lt _ (by decide))
  have zero : hexValue? '0' = some 0 := rfl
  simp only [hexUnit?, zero, high, low, Option.bind_eq_bind, Option.bind_some, Option.pure_def,
    Option.some.injEq]
  omega

theorem readCodes_plain {character : Char} (quote : character ≠ '"') (escape : character ≠ '\\')
    (printed : ¬ character.toNat < 0x20) (rest : List Char) :
    readCodes (character :: rest) =
      (readCodes rest).map fun (codes, after) => (character.toNat :: codes, after) := by
  rw [readCodes]
  · exact if_neg printed
  · exact quote
  · intro first second third fourth after same
    exact absurd same escape
  · intro letter after same
    exact absurd same escape

/-- An escape is read as the character that it was written for. -/
theorem readCodes_escaped (character : Char) (rest : List Char) :
    readCodes (escapedCharacter character ++ rest) =
      (readCodes rest).map fun (codes, after) => (character.toNat :: codes, after) := by
  unfold escapedCharacter
  split
  · rename_i special
    rcases special with rfl | rfl <;> rfl
  · rename_i special
    obtain ⟨quote, escape⟩ := not_or.mp special
    split
    · subst_vars
      rfl
    · split
      · subst_vars
        rfl
      · split
        · subst_vars
          rfl
        · split
          · subst_vars
            rfl
          · split
            · subst_vars
              rfl
            · split
              · rename_i control
                simp only [List.cons_append, List.nil_append, readCodes, hexUnit?_control control]
              · rename_i printed
                exact readCodes_plain quote escape printed rest

theorem readCodes_text (text rest : List Char) :
    readCodes (text.flatMap escapedCharacter ++ '"' :: rest) =
      some (text.map Char.toNat, rest) := by
  induction text with
  | nil => rfl
  | cons character others inductionHypothesis =>
      rw [List.flatMap_cons, List.append_assoc, readCodes_escaped, inductionHypothesis]
      rfl

theorem ofNat_toNat (character : Char) : CodePoint.ofNat character.toNat = .scalar character := by
  have scalar : character.toNat < 0xD800 ∨
      0xDFFF < character.toNat ∧ character.toNat < 0x110000 := character.valid
  have outside : ¬ (CodePoint.firstSurrogate ≤ character.toNat ∧
      character.toNat - CodePoint.firstSurrogate < 2048) := by
    have first : CodePoint.firstSurrogate = 0xD800 := rfl
    omega
  rw [CodePoint.ofNat, dif_neg outside, Char.ofNat_toNat]

/-- Characters are no halves of pairs, so none are joined. -/
theorem joinUnits_text (text : List Char) : joinUnits (text.map Char.toNat) = .ofList text := by
  induction text with
  | nil => rfl
  | cons character others inductionHypothesis =>
      have scalar : character.toNat < 0xD800 ∨
          0xDFFF < character.toNat ∧ character.toNat < 0x110000 := character.valid
      cases others with
      | nil => exact congrArg (· :: []) (ofNat_toNat character)
      | cons next after =>
          have single : (isHighUnit character.toNat && isLowUnit next.toNat) = false := by
            simp only [isHighUnit, Bool.and_eq_false_iff, decide_eq_false_iff_not]
            omega
          rw [List.map_cons, List.map_cons, joinUnits, single]
          rw [List.map_cons] at inductionHypothesis
          rw [if_neg Bool.false_ne_true, inductionHypothesis, ofNat_toNat]
          rfl

theorem readString_text (text rest : List Char) :
    readString (text.flatMap escapedCharacter ++ '"' :: rest) = .ok (.ofList text, rest) := by
  rw [readString, readCodes_text, ← joinUnits_text]

theorem digitChar_ne_return : ∀ digit < 16, '\r' ≠ digit.digitChar := by
  decide

theorem return_not_mem_escapedCharacter (character : Char) : '\r' ∉ escapedCharacter character := by
  unfold escapedCharacter
  split
  · rename_i special
    rcases special with rfl | rfl <;> decide
  · split
    · decide
    · split
      · decide
      · rename_i notReturn
        split
        · decide
        · split
          · decide
          · split
            · decide
            · split
              · rename_i control
                have high := digitChar_ne_return (character.toNat / 16) (by omega)
                have low := digitChar_ne_return (character.toNat % 16) (Nat.mod_lt _ (by decide))
                simp [high, low]
              · intro member
                exact notReturn (List.mem_singleton.mp member).symm

theorem of_flatMap_escaped {text : CodeText} {written : List Char}
    (same : text.flatMap escaped = CodeText.ofList written) :
    ∃ characters, text = CodeText.ofList characters ∧
      written = characters.flatMap escapedCharacter := by
  induction text generalizing written with
  | nil =>
      have empty : written = [] := List.map_eq_nil_iff.mp same.symm
      exact ⟨[], rfl, empty⟩
  | cons point rest inductionHypothesis =>
      rw [List.flatMap_cons] at same
      obtain ⟨first, others, rfl, start, after⟩ := List.map_eq_append_iff.mp same.symm
      obtain ⟨characters, rfl, rfl⟩ := inductionHypothesis after.symm
      cases point with
      | surrogate offset =>
          cases first with
          | nil => cases start
          | cons character more => cases start
      | scalar character =>
          have head : first = escapedCharacter character := ofList_injective start
          exact ⟨character :: characters, rfl, by rw [head, List.flatMap_cons]⟩

/-- A text that can be written has no surrogates, and stands between quotes. -/
theorem Written.string {text : CodeText} {written : List Char}
    (pieces : Written [.text (writtenString text)] written) :
    ∃ characters, text = CodeText.ofList characters ∧
      written = '"' :: (characters.flatMap escapedCharacter ++ ['"']) := by
  have content := pieces.single
  obtain ⟨before, after, rfl, start, finish⟩ := List.map_eq_append_iff.mp content.symm
  cases before with
  | nil => cases start
  | cons quote inside =>
      obtain ⟨quoteSame, insideSame⟩ := List.cons.inj start
      cases quoteSame
      obtain ⟨characters, rfl, rfl⟩ := of_flatMap_escaped insideSame.symm
      have last : after = ['"'] := @ofList_injective after ['"'] finish
      exact ⟨characters, rfl, by rw [last, List.cons_append]⟩

end DeskCalculator.Json
