import DeskCalculator.Proofs.NumberDraft

/-! The sign of a number while it is typed. The sign turns a draft into the draft of the negated number,
so it negates the value in the editable leaf, and a second sign takes all of this back. -/

namespace DeskCalculator

/-! ### Negated doubles -/

namespace Binary64

open Float.Model.UnpackedFloat (unpack unpackSign unpackExponent unpackMantissa Sign)

theorem unpackSign_toNat (bits : UInt64) :
    (@unpackSign .binary64 bits.toBitVec).toNat = bits.toNat / signWeight := by
  have bounded := bits.toNat_lt
  rw [Float.Model.UnpackedFloat.unpackSign_def, BitVec.extractLsb'_toNat, UInt64.toNat_toBitVec,
    Nat.shiftRight_eq_div_pow, signWeight_eq]
  norm_num
  omega

theorem ofBitVec_unpackSign (bits : UInt64) :
    Sign.ofBitVec (@unpackSign .binary64 bits.toBitVec) =
      if signWeight ≤ bits.toNat then .negative else .positive := by
  have bit := unpackSign_toNat bits
  rw [signWeight_eq] at bit
  rw [signWeight_eq, Sign.ofBitVec]
  split
  · rename_i zero
    rw [zero] at bit
    change 0 = _ at bit
    rw [if_neg (by omega)]
  · rename_i one
    rw [if_pos]
    by_contra small
    apply one
    apply BitVec.eq_of_toNat_eq
    rw [bit]
    change _ = 0
    omega

/-- Bits that differ in the sign alone are those of numbers that differ in the sign alone. -/
theorem unpack_neg {bits other : UInt64}
    (rest : other.toNat % signWeight = bits.toNat % signWeight)
    (sign : signWeight ≤ other.toNat ↔ ¬ signWeight ≤ bits.toNat) :
    unpack .binary64 other.toBitVec = (unpack .binary64 bits.toBitVec).neg := by
  have exponent : @unpackExponent .binary64 other.toBitVec =
      @unpackExponent .binary64 bits.toBitVec := by
    apply BitVec.eq_of_toNat_eq
    rw [unpackExponent_toNat, unpackExponent_toNat, rest]
  have mantissa : @unpackMantissa .binary64 other.toBitVec =
      @unpackMantissa .binary64 bits.toBitVec := by
    apply BitVec.eq_of_toNat_eq
    rw [signWeight_eq] at rest
    rw [unpackMantissa_toNat, unpackMantissa_toNat, span_eq]
    omega
  have signs : Sign.ofBitVec (@unpackSign .binary64 other.toBitVec) =
      -Sign.ofBitVec (@unpackSign .binary64 bits.toBitVec) := by
    rw [ofBitVec_unpackSign, ofBitVec_unpackSign]
    by_cases negative : signWeight ≤ bits.toNat
    · rw [if_pos negative, if_neg (fun both => sign.mp both negative)]
      rfl
    · rw [if_neg negative, if_pos (sign.mpr negative)]
      rfl
  unfold unpack
  simp only [exponent, mantissa, signs]
  split
  · split <;> rfl
  · split
    · split <;> rfl
    · rfl

theorem neg_toFloat (negative : Bool) {size : Nat} (bounded : size ≤ infinity) :
    -toFloat negative size = toFloat (!negative) size := by
  have bits (negative : Bool) := toNat_toBits_toFloat negative bounded
  rw [infinity_eq] at bounded
  have flipped : unpack .binary64 (toFloat (!negative) size).toBits.toBitVec =
      (unpack .binary64 (toFloat negative size).toBits.toBitVec).neg := by
    apply unpack_neg
    · rw [bits, bits, signWeight_eq]
      cases negative <;> simp
    · rw [bits, bits, signWeight_eq]
      cases negative <;> simp <;> omega
  have packed : -toFloat negative size = Float.ofBits (toFloat (!negative) size).toBits := by
    unfold Float.ofBits Float.Model.ofBits
    rw [flipped]
    rfl
  rw [packed, Float.ofBits_toBits]

end Binary64

/-! ### Drafts with the other sign -/

theorem Draft.finite?_flipped (draft : Draft) :
    Numeral.finite? draft.flipped.text = (Numeral.finite? draft.text).map (-·) := by
  rw [finite?_text, finite?_text]
  change (if draft.whole ++ draft.places = [] then none
    else if draft.magnitude < Binary64.infinity then
      some (Binary64.toFloat (!draft.negative) draft.magnitude)
    else none) = _
  split
  · rfl
  · split
    · rename_i small
      rw [Option.map_some, Binary64.neg_toFloat _ (Nat.le_of_lt small)]
    · rfl

namespace Session

section
variable {session : Session} {draft : Draft} (typing : session.entry = some draft.text)
include typing

theorem toggleSign_draft : session.toggleSign = session.edit draft.flipped.text := by
  rw [toggleSign_typing typing, draft.text_flipped]

theorem Sound.toggleSign_toggleSign (sound : session.Sound) :
    session.toggleSign.toggleSign = session := by
  have held := sound.editableLeaf?_typing typing
  have twice : session.toggleSign.toggleSign = session.toggleSign.edit draft.flipped.flipped.text :=
    toggleSign_draft (by rw [toggleSign_draft typing]; rfl)
  have restored : session.toggleSign.tree.editLeaf (Numeral.finite? draft.text) = session.tree := by
    rw [toggleSign_draft typing, Session.edit, Tree.editLeaf_editLeaf]
    exact Tree.editLeaf_of_held held
  rw [twice, draft.flipped_flipped, Session.edit, restored, toggleSign_draft typing, Session.edit, ← typing]

end

end Session

/-! ### The sign key -/

namespace Keypad

theorem press_sign (keypad : Keypad) :
    (keypad.meet (.key "negate")).mode = keypad.mode ∧
    (keypad.meet (.key "negate")).session =
      if keypad.mode = none then keypad.session.toggleSign else keypad.session := by
  have named : Key.ofIdentifier "negate" = .ok .sign := by decide
  change (keypad.pressed "negate").mode = _ ∧ (keypad.pressed "negate").session = _
  rw [pressed_ofIdentifier named]
  cases waiting : keypad.mode with
  | none => simpa only [press, waiting] using ⟨waiting, rfl⟩
  | some mode =>
      rw [press_waiting waiting rfl]
      exact ⟨waiting, rfl⟩

/-- Whatever keys of the keypad are pressed: the sign negates the value in the editable leaf, if there is
a value, and changes no other node and no slot, and a second sign restores the session. The key does
this while no memory key waits, and nothing else otherwise. -/
theorem sign_negates_leaf_and_back (settings : Settings) (source : SpeechSource)
    (events : List Event)
    (keys : ∀ identifier, .key identifier ∈ events → ∃ key, (identifier, key) ∈ Key.layout) :
    let keypad := (start settings source).1.meetAll events
    let session := keypad.session
    let signed := session.toggleSign
    ∀ characters, session.entry = some characters →
      signed.toggleSign = session ∧
      (∃ leaf value,
        session.tree.editablePath? = some leaf ∧
        session.tree.editableLeaf? = some (.operand value) ∧
        signed.tree.editablePath? = some leaf ∧
        signed.tree.editableLeaf? = some (.operand (value.map (-·))) ∧
        ∀ path, path ≠ leaf → signed.tree.contentAt? path = session.tree.contentAt? path) ∧
      signed.memory = session.memory ∧
      (keypad.mode = none → (keypad.meet (.key "negate")).session = signed) ∧
      ((keypad.meet (.key "negate")).meet (.key "negate")).session = session := by
  intro keypad session signed characters typing
  obtain ⟨sound, drafts⟩ := session_isDraft settings source keys
  obtain ⟨draft, rfl⟩ := drafts characters typing
  have restored : signed.toggleSign = session := sound.toggleSign_toggleSign typing
  have held := sound.editableLeaf?_typing typing
  have edited : signed.tree = session.tree.editLeaf (Numeral.finite? draft.flipped.text) :=
    congrArg Session.tree (Session.toggleSign_draft typing)
  obtain ⟨leaf, found, _⟩ := Option.map_eq_some_iff.mp held
  obtain ⟨mode, pressed⟩ := keypad.press_sign
  refine ⟨restored, ⟨leaf, _, found, held, ?_, ?_, ?_⟩, session.toggleSign_memory, ?_, ?_⟩
  · rw [edited, Tree.editablePath?_editLeaf, found]
  · rw [edited, ← draft.finite?_flipped]
    exact Tree.editableLeaf?_editLeaf held _
  · intro path elsewhere
    rw [edited]
    apply Tree.contentAt?_editLeaf
    rw [found]
    exact fun same => elsewhere (Option.some.inj same).symm
  · intro idle
    rw [pressed, if_pos idle]
  · rw [(press_sign _).2, mode, pressed]
    split
    · exact restored
    · rfl

/-- The right operand of a sum, with as many characters as the limit allows. -/
theorem sign_of_full_operand_and_back :
    let events : List Event := [.key "num_1", .key "add", .key "num_2", .key "dot", .key "num_5"]
    let session := ((start { maxInputLength := 3 } fun _ => .error "no engine").1.meetAll events).session
    (∀ identifier, .key identifier ∈ events → ∃ key, (identifier, key) ∈ Key.layout) ∧
      session.entry = some "2.5".toList ∧ session.tree.evaluate = some 3.5 ∧
      session.toggleSign.tree.evaluate = some (-1.5) ∧ session.toggleSign.toggleSign = session := by
  intro events session
  have keys : ∀ identifier, .key identifier ∈ events → ∃ key, (identifier, key) ∈ Key.layout := by
    intro identifier member
    simp only [events, List.mem_cons, Event.key.injEq, List.not_mem_nil, or_false] at member
    rcases member with rfl | rfl | rfl | rfl | rfl
    · exact ⟨.number 1, by decide⟩
    · exact ⟨.arithmetic .add, by decide⟩
    · exact ⟨.number 2, by decide⟩
    · exact ⟨.point, by decide⟩
    · exact ⟨.number 5, by decide⟩
  have typing : session.entry = some "2.5".toList := by decide +kernel
  have restored := (sign_negates_leaf_and_back { maxInputLength := 3 }
    (fun _ => .error "no engine") events keys _ typing).1
  exact ⟨keys, typing, by decide +kernel, by decide +kernel, restored⟩

end Keypad
end DeskCalculator
