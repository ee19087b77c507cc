/-! Decimal digits of every script. A script's ten digits are consecutive code points, so the table
holds the zeros only. `westernDigit` writes any of them as one of `0` to `9`. -/

namespace DeskCalculator.Text

def zeroDigits : List Nat :=
  [0x30, 0x660, 0x6F0, 0x7C0, 0x966, 0x9E6, 0xA66, 0xAE6, 0xB66, 0xBE6, 0xC66, 0xCE6, 0xD66,
    0xDE6, 0xE50, 0xED0, 0xF20, 0x1040, 0x1090, 0x17E0, 0x1810, 0x1946, 0x19D0, 0x1A80, 0x1A90,
    0x1B50, 0x1BB0, 0x1C40, 0x1C50, 0xA620, 0xA8D0, 0xA900, 0xA9D0, 0xA9F0, 0xAA50, 0xABF0,
    0xFF10, 0x104A0, 0x10D30, 0x11066, 0x110F0, 0x11136, 0x111D0, 0x112F0, 0x11450, 0x114D0,
    0x11650, 0x116C0, 0x11730, 0x118E0, 0x11950, 0x11C50, 0x11D50, 0x11DA0, 0x16A60, 0x16AC0,
    0x16B50, 0x1D7CE, 0x1D7D8, 0x1D7E2, 0x1D7EC, 0x1D7F6, 0x1E140, 0x1E2F0, 0x1E950, 0x1FBF0]

def digitValue? (character : Char) : Option Nat :=
  (zeroDigits.find? fun first => first ≤ character.toNat && character.toNat < first + 10).map
    (character.toNat - ·)

def westernDigit (character : Char) : Char :=
  match digitValue? character with
  | some value => value.digitChar
  | none => character

theorem toNat_of_isDigit {character : Char} (digit : character.isDigit = true) :
    48 ≤ character.toNat ∧ character.toNat ≤ 57 := by
  simp only [Char.isDigit, Bool.and_eq_true, decide_eq_true_eq, ge_iff_le,
    UInt32.le_iff_toNat_le] at digit
  exact digit

theorem digitValue?_of_isDigit {character : Char} (digit : character.isDigit = true) :
    digitValue? character = some (character.toNat - 48) := by
  have bounds := toNat_of_isDigit digit
  have first : (48 ≤ character.toNat && character.toNat < 48 + 10) = true := by
    simp only [Bool.and_eq_true, decide_eq_true_eq]
    omega
  have zerosFromFirst : zeroDigits = 48 :: zeroDigits.tail := rfl
  rw [digitValue?, zerosFromFirst, List.find?_cons_of_pos (by exact first), Option.map_some]

/-- The western digits are kept as they are. -/
theorem westernDigit_of_isDigit {character : Char} (digit : character.isDigit = true) :
    westernDigit character = character := by
  rw [westernDigit, digitValue?_of_isDigit digit]
  have bounds := toNat_of_isDigit digit
  have small : character.toNat - 48 < 10 := by omega
  have sameCode : (character.toNat - 48).digitChar.toNat = character.toNat := by
    rw [Nat.toNat_digitChar_of_lt_ten small]
    omega
  exact Char.toNat_inj.1 sameCode

end DeskCalculator.Text
