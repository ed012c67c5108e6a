import DiceRoller.Text.Hidden

/-!
# Quoted text

A text between quotes, on one line and with every character visible: marks
that would end or break the line are escaped, and so are the characters that
have no glyph of their own.
-/

namespace DiceRoller.Text

/-- The number in lower-case hexadecimal digits, with zeros in front up to the
given width. -/
def hexadecimal (width number : Nat) : List Char :=
  let digits := Nat.toDigits 16 number
  List.replicate (width - digits.length) '0' ++ digits

/-- The escape of a code point, as short as its size allows. -/
def codeEscape (code : Nat) : List Char :=
  if code < 0x100 then '\\' :: 'x' :: hexadecimal 2 code
  else if code < 0x10000 then '\\' :: 'u' :: hexadecimal 4 code
  else '\\' :: 'U' :: hexadecimal 8 code

/-- How one character stands between two of the given quotes. -/
def escape (quote character : Char) : List Char :=
  if character = quote ∨ character = '\\' then ['\\', character]
  else if character = '\t' then ['\\', 't']
  else if character = '\n' then ['\\', 'n']
  else if character = '\r' then ['\\', 'r']
  else if isHidden character then codeEscape character.toNat
  else [character]

/-- Single quotes, unless the text holds one and no double quote. -/
def quoteFor (text : List Char) : Char :=
  if '\'' ∈ text ∧ '"' ∉ text then '"' else '\''

/-- The text between quotes, escaped. -/
def quoted (text : String) : String :=
  let quote := quoteFor text.toList
  String.ofList (quote :: text.toList.flatMap (escape quote) ++ [quote])

end DiceRoller.Text
