/-!
# Blank characters

The characters that may stand between the marks of the notation, and the two
ways of dropping them from a text.
-/

namespace DiceRoller.Text

/-- White space in the sense of the character property of that name. -/
def isWhiteSpace (character : Char) : Bool :=
  let code := character.toNat
  (0x09 ≤ code && code ≤ 0x0D) || code == 0x20 || code == 0x85 ||
    code == 0xA0 || code == 0x1680 || (0x2000 ≤ code && code ≤ 0x200A) ||
    code == 0x2028 || code == 0x2029 || code == 0x202F || code == 0x205F ||
    code == 0x3000

/-- A blank is white space or one of the four information separators. -/
def isBlank (character : Char) : Bool :=
  isWhiteSpace character ||
    (0x1C ≤ character.toNat && character.toNat ≤ 0x1F)

/-- The text from its first character on that `drops` does not hold of. -/
def trimStart (drops : Char → Bool) (text : List Char) : List Char :=
  text.dropWhile drops

/-- The text without the characters that `drops` holds of at either end. -/
def trim (drops : Char → Bool) (text : List Char) : List Char :=
  (trimStart drops (trimStart drops text).reverse).reverse

theorem trimStart_length_le (drops : Char → Bool) (text : List Char) :
    (trimStart drops text).length ≤ text.length :=
  (List.dropWhile_sublist drops).length_le

end DiceRoller.Text
