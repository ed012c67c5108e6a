import DiceRoller.Proofs.Notation.Language

/-!
# Texts in small letters

A text is read in small letters.  Writing it in small letters changes neither
its blanks nor its digits, and a small letter comes of its two cases alone.
-/

namespace DiceRoller

open Text (isBlank)

/-- A capital letter of the alphabet and the same letter as a small one. -/
structure BothCases (capital small : Char) : Prop where
  first_le : 65 ≤ capital.toNat
  le_last : capital.toNat ≤ 90
  small_eq : small.toNat = capital.toNat + 32

theorem toNat_toLower (character : Char) :
    character.toLower.toNat =
      if 65 ≤ character.toNat ∧ character.toNat ≤ 90 then
        character.toNat + 32
      else character.toNat := by
  have capital : ('A'.val ≤ character.val ∧ character.val ≤ 'Z'.val) ↔
      65 ≤ character.toNat ∧ character.toNat ≤ 90 := by
    rw [UInt32.le_iff_toNat_le, UInt32.le_iff_toNat_le]
    rfl
  unfold Char.toLower
  by_cases upper : 'A'.val ≤ character.val ∧ character.val ≤ 'Z'.val
  · have range := capital.mp upper
    have sum : (character.toNat + 32) % 2 ^ 32 = character.toNat + 32 :=
      Nat.mod_eq_of_lt (by omega)
    rw [dif_pos upper, if_pos range]
    exact (UInt32.toNat_add _ _).trans sum
  · rw [dif_neg upper, if_neg fun range => upper (capital.mpr range)]

theorem BothCases.toLower_eq_iff {capital small : Char}
    (letter : BothCases capital small) (character : Char) :
    character.toLower = small ↔ character = small ∨ character = capital := by
  obtain ⟨first, last, same⟩ := letter
  simp only [← Char.toNat_inj, toNat_toLower]
  split <;> omega

@[simp] theorem isDigit_toLower (character : Char) :
    character.toLower.isDigit = character.isDigit := by
  rw [Bool.eq_iff_iff, Token.isDigit_iff, Token.isDigit_iff, toNat_toLower]
  split <;> omega

@[simp] theorem isBlank_toLower (character : Char) :
    isBlank character.toLower = isBlank character := by
  simp only [isBlank, Text.isWhiteSpace, toNat_toLower]
  generalize character.toNat = code
  split
  · rw [Bool.eq_iff_iff]
    simp only [Bool.or_eq_true, Bool.and_eq_true, decide_eq_true_eq,
      beq_iff_eq]
    omega
  · rfl

namespace Notation

open Token (Blanks Digits decimal)

theorem lowered_append (first second : String) :
    lowered (first ++ second) = lowered first ++ lowered second := by
  simp [lowered]

theorem blanks_lowered {text : String} :
    Blanks (lowered text) ↔ ∀ character ∈ text.toList, isBlank character := by
  simp [Blanks, lowered]

theorem digits_toDigits (number : Nat) : Digits (Nat.toDigits 10 number) := by
  constructor
  · exact Nat.toDigits_ne_nil
  · intro character member
    exact Nat.isDigit_of_mem_toDigits (by decide) (by decide) member

private theorem toLower_of_isDigit {character : Char}
    (digit : character.isDigit = true) : character.toLower = character := by
  have range := Token.isDigit_iff.mp digit
  apply Char.toNat_inj.mp
  rw [toNat_toLower, if_neg (by omega)]

theorem lowered_toString (number : Nat) :
    lowered (toString number) = Nat.toDigits 10 number := by
  have same : ∀ character ∈ Nat.toDigits 10 number,
      character.toLower = id character := fun character member =>
    toLower_of_isDigit ((digits_toDigits number).digit character member)
  rw [lowered, Nat.toString_eq_repr, Nat.toList_repr,
    List.map_congr_left same, List.map_id]

theorem decimal_toDigits (number : Nat) :
    decimal (Nat.toDigits 10 number) = number :=
  Nat.ofDigitChars_ten_toDigits

theorem toString_of_neg {number : Int} (negative : number < 0) :
    toString number = "-" ++ toString number.natAbs := by
  rw [Int.toString_eq_repr, Int.repr_eq_if, if_neg (by omega),
    Nat.toString_eq_repr]
  congr 2
  omega

theorem toString_of_nonneg {number : Int} (nonneg : 0 ≤ number) :
    toString number = toString number.natAbs := by
  rw [Int.toString_eq_repr, Int.repr_eq_if, if_pos nonneg,
    Nat.toString_eq_repr]
  congr 1
  omega

end Notation

end DiceRoller
