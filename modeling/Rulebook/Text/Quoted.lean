import Rulebook.Unicode.Unprintable

/-!
# Quoted text in messages

Messages show text between double quotes.  The quote, the backslash and four control characters are
written with a backslash, and a character without a glyph of its own by its number.
-/

namespace Rulebook
namespace Text

/-- A number in lower-case hexadecimal, without leading zeros. -/
def lowerHex (value : Nat) : List Char :=
  Nat.toDigits 16 value

/-- One character inside a quoted message part. -/
def quoteCharacter (character : Char) : List Char :=
  if character = '\x00' then ['\\', '0']
  else if character = '\t' then ['\\', 't']
  else if character = '\r' then ['\\', 'r']
  else if character = '\n' then ['\\', 'n']
  else if character = '\\' ∨ character = '"' then ['\\', character]
  else if Unicode.isUnprintable character then
    '\\' :: 'u' :: '{' :: lowerHex character.toNat ++ ['}']
  else [character]

/-- Text between double quotes, as messages show it. -/
def quoted (text : String) : String :=
  String.ofList ('"' :: text.toList.flatMap quoteCharacter ++ ['"'])

end Text
end Rulebook
