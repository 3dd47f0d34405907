import Rulebook.Unicode.CodeRange

/-!
# Escaped text

Literals and character sets are written between delimiters.  Line feed, carriage return, tab,
backspace and form feed have a letter of their own, other control characters are written by number,
and a backslash goes before the backslash and the closing delimiter.
-/

namespace Rulebook
namespace Text

/-- The hexadecimal digit of a number below sixteen, in upper case. -/
def upperHexDigit (value : Nat) : Char :=
  (Nat.digitChar value).toUpper

/-- The four lowest hexadecimal digits of a number, in upper case. -/
def fourHexDigits (value : Nat) : List Char :=
  [upperHexDigit (value / 4096 % 16), upperHexDigit (value / 256 % 16),
   upperHexDigit (value / 16 % 16), upperHexDigit (value % 16)]

/-- The letter that names a control character after a backslash. -/
def controlLetter? (character : Char) : Option Char :=
  if character = '\n' then some 'n'
  else if character = '\r' then some 'r'
  else if character = '\t' then some 't'
  else if character = '\x08' then some 'b'
  else if character = '\x0c' then some 'f'
  else none

/-- One character as it is written before the closing `delimiter`. -/
def escapeCharacter (delimiter character : Char) : List Char :=
  match controlLetter? character with
  | some letter => ['\\', letter]
  | none =>
      if character = '\\' ∨ character = delimiter then ['\\', character]
      else if Unicode.isControl character then '\\' :: 'u' :: fourHexDigits character.toNat
      else [character]

/-- Text as it is written before the closing `delimiter`. -/
def escapeCharacters (delimiter : Char) (text : List Char) : List Char :=
  text.flatMap (escapeCharacter delimiter)

/-- The body of a quoted literal. -/
def escapeLiteral (text : String) : String :=
  String.ofList (escapeCharacters '\'' text.toList)

/-- The body of a bracketed character set. -/
def escapeSet (text : String) : String :=
  String.ofList (escapeCharacters ']' text.toList)

/-- A literal between its quotes. -/
def quotedLiteral (text : String) : String :=
  "'" ++ escapeLiteral text ++ "'"

/-- A character set between its brackets. -/
def bracketedSet (text : String) : String :=
  "[" ++ escapeSet text ++ "]"

end Text
end Rulebook
