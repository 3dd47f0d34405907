import Rulebook.Text.Found
import Rulebook.Unicode.Identifier

/-!
# Literals of the notation

The recognisers here look at the front of a text and say how many characters a literal spans and,
where it matters, what it stands for.  A recogniser answers with nothing where no literal of its
kind begins.
-/

namespace Rulebook
namespace Notation

open Text (Found hexValue? isScalar)

/-- The characters of the identifier at the front of a text, as many as there are. -/
def identifierWidth : List Char → Nat
  | [] => 0
  | initial :: rest =>
      if Unicode.isIdentifierStart initial then
        1 + (rest.takeWhile Unicode.isIdentifierContinue).length
      else 0

/-- What the characters between quotes may be. -/
structure QuoteStyle where
  /-- May the character stand for itself? -/
  allowsPlain : Char → Bool
  /-- May the code be given by two hexadecimal digits? -/
  allowsPair : Nat → Bool
  /-- May the code be given between braces? -/
  allowsBraced : Nat → Bool
  /-- May a zero follow the backslash? -/
  allowsZero : Bool

namespace QuoteStyle

/-- Text: a pair of digits gives an ASCII character. -/
def plainText : QuoteStyle where
  allowsPlain _ := true
  allowsPair code := code ≤ 0x7F
  allowsBraced _ := true
  allowsZero := true

/-- Bytes: only ASCII stands for itself. -/
def bytes : QuoteStyle where
  allowsPlain character := character.toNat ≤ 0x7F
  allowsPair _ := true
  allowsBraced _ := false
  allowsZero := true

/-- Text that ends with a zero byte and therefore holds none. -/
def terminated : QuoteStyle where
  allowsPlain character := character.toNat ≠ 0
  allowsPair code := code ≠ 0
  allowsBraced code := code ≠ 0
  allowsZero := false

end QuoteStyle

/-- The code between braces: one to six digits, with low lines after the first. -/
def bracedCode? (value digits : Nat) : List Char → Option (Found Nat)
  | [] => none
  | character :: rest =>
      if character = '_' ∧ 0 < digits then (bracedCode? value digits rest).map (·.widen 1)
      else if character = '}' ∧ 0 < digits then
        if isScalar value then some ⟨value, 1⟩ else none
      else
        match hexValue? character with
        | some digit =>
            if digits = 6 then none
            else (bracedCode? (value * 16 + digit) (digits + 1) rest).map (·.widen 1)
        | none => none

/-- What the letter after a backslash stands for by itself. -/
def letterEscape? (style : QuoteStyle) (letter : Char) : Option Nat :=
  if letter = 'n' then some 10
  else if letter = 'r' then some 13
  else if letter = 't' then some 9
  else if letter = '\\' ∨ letter = '\'' ∨ letter = '"' then some letter.toNat
  else if letter = '0' ∧ style.allowsZero then some 0
  else none

/-- The character that the text after a backslash stands for. -/
def escape? (style : QuoteStyle) : List Char → Option (Found Nat)
  | 'x' :: high :: low :: _ =>
      match hexValue? high, hexValue? low with
      | some first, some second =>
          if style.allowsPair (first * 16 + second) then some ⟨first * 16 + second, 3⟩ else none
      | _, _ => none
  | 'u' :: '{' :: rest =>
      match bracedCode? 0 0 rest with
      | some found =>
          if style.allowsBraced found.value then some (found.widen 2) else none
      | none => none
  | letter :: _ => (letterEscape? style letter).map fun code => ⟨code, 1⟩
  | [] => none

/-- The blanks that a backslash at the end of a line skips; a carriage return among them needs its
line feed. -/
def skippedBlanks? : List Char → Option Nat
  | '\r' :: '\n' :: rest => (skippedBlanks? rest).map (· + 2)
  | '\r' :: _ => none
  | ' ' :: rest | '\t' :: rest | '\n' :: rest => (skippedBlanks? rest).map (· + 1)
  | _ => some 0

/-- One unit of quoted text: the characters that it stands for. -/
def quotedUnit? (style : QuoteStyle) : List Char → Option (Found (List Char))
  | '\r' :: '\n' :: _ => some ⟨['\n'], 2⟩
  | '\r' :: _ => none
  | '\\' :: '\r' :: '\n' :: rest => (skippedBlanks? rest).map fun blanks => ⟨[], blanks + 3⟩
  | '\\' :: '\n' :: rest => (skippedBlanks? rest).map fun blanks => ⟨[], blanks + 2⟩
  | '\\' :: rest =>
      (escape? style rest).map fun found => ⟨[Char.ofNat found.value], found.width + 1⟩
  | character :: _ => if style.allowsPlain character then some ⟨[character], 1⟩ else none
  | [] => none

/-- The quote that closes quoted text. -/
def closingQuote? : List Char → Option (Found (List Char))
  | '"' :: _ => some ⟨[], 1⟩
  | _ => none

/-- Quoted text up to its closing quote. -/
def quoted? (style : QuoteStyle) (text : List Char) : Option (Found (List Char)) :=
  Text.readUnits closingQuote? (quotedUnit? style) 0 text

/-- Raw text up to a quote with `hashes` number signs; a carriage return needs its line feed. -/
def rawFrom? (style : QuoteStyle) (hashes : Nat) : List Char → Option (Found (List Char))
  | [] => none
  | '\r' :: '\n' :: rest =>
      (rawFrom? style hashes rest).map fun found => ⟨'\r' :: '\n' :: found.value, found.width + 2⟩
  | '\r' :: _ => none
  | character :: rest =>
      if character = '"' ∧ (List.replicate hashes '#').isPrefixOf rest then
        some ⟨[], hashes + 1⟩
      else if style.allowsPlain character then
        (rawFrom? style hashes rest).map fun found => ⟨character :: found.value, found.width + 1⟩
      else none

/-- Raw text with its opening number signs and quote. -/
def raw? (style : QuoteStyle) (text : List Char) : Option (Found (List Char)) :=
  let hashes := (text.takeWhile (· == '#')).length
  match text.drop hashes with
  | '"' :: rest =>
      if hashes ≤ 255 then (rawFrom? style hashes rest).map (·.widen (hashes + 1)) else none
  | _ => none

/-- A literal that an identifier may follow directly: the identifier belongs to it. -/
def withSuffix {Value : Type} (text : List Char) (found : Found Value) : Found Value :=
  found.widen (identifierWidth (text.drop found.width))

/-- Quoted or raw text after the letters that announce its style. -/
def styledText? (style : QuoteStyle) (text : List Char) (letters : Nat) :
    Option (Found (List Char)) :=
  match text.drop letters with
  | '"' :: rest =>
      (quoted? style rest).map fun found => withSuffix text (found.widen (letters + 1))
  | 'r' :: rest =>
      (raw? style rest).map fun found => withSuffix text (found.widen (letters + 1))
  | _ => none

/-- A text literal. -/
def textLiteral? (text : List Char) : Option (Found String) :=
  (styledText? QuoteStyle.plainText text 0).map (·.map String.ofList)

/-- A literal of bytes or of zero-terminated text. -/
def byteText? : List Char → Option Nat
  | 'b' :: rest => (styledText? QuoteStyle.bytes ('b' :: rest) 1).map Found.width
  | 'c' :: rest => (styledText? QuoteStyle.terminated ('c' :: rest) 1).map Found.width
  | _ => none

/-- What stands between single quotes, with the closing quote. -/
def quotedCharacter? (style : QuoteStyle) : List Char → Option (Found Nat)
  | [] => none
  | '\\' :: rest =>
      match escape? style rest with
      | some found =>
          if (rest.drop found.width).head? = some '\'' then some (found.widen 2) else none
      | none => none
  | character :: rest =>
      if style.allowsPlain character ∧ rest.head? = some '\'' then some ⟨character.toNat, 2⟩
      else none

/-- A character literal. -/
def character? : List Char → Option (Found Char)
  | '\'' :: rest =>
      (quotedCharacter? QuoteStyle.plainText rest).map fun found =>
        withSuffix ('\'' :: rest) ⟨Char.ofNat found.value, found.width + 1⟩
  | _ => none

/-- A byte literal. -/
def byte? : List Char → Option Nat
  | 'b' :: '\'' :: rest =>
      (quotedCharacter? QuoteStyle.bytes rest).map fun found =>
        (withSuffix ('b' :: '\'' :: rest) (found.widen 2)).width
  | _ => none

/-- Decimal digits and low lines. -/
def isDigitOrLowLine (character : Char) : Bool :=
  character.isDigit || character == '_'

/-- An exponent after its letter: low lines, at most one sign, and at least one digit. -/
def exponentWidth? (signed valued : Bool) : List Char → Option Nat
  | [] => if valued then some 0 else none
  | character :: rest =>
      if character = '+' ∨ character = '-' then
        if valued then some 0
        else if signed then none
        else (exponentWidth? true valued rest).map (· + 1)
      else if character.isDigit then (exponentWidth? signed true rest).map (· + 1)
      else if character = '_' then (exponentWidth? signed valued rest).map (· + 1)
      else if valued then some 0
      else none

/-- Does the text after a decimal point forbid that it ends a number? -/
def continuesPath : List Char → Bool
  | character :: _ => character == '.' || Unicode.isIdentifierStart character
  | [] => false

/-- A number with a decimal point or an exponent, without its suffix. -/
def floatDigits? (text : List Char) : Option Nat :=
  match text with
  | [] => none
  | initial :: rest =>
      if !initial.isDigit then none
      else
        let whole := 1 + (rest.takeWhile isDigitOrLowLine).length
        let afterWhole := text.drop whole
        if afterWhole.head? = some '.' then
          if continuesPath afterWhole.tail then none
          else
            let pointed := whole + 1 + (afterWhole.tail.takeWhile isDigitOrLowLine).length
            match text.drop pointed with
            | letter :: exponent =>
                if letter = 'e' ∨ letter = 'E' then
                  match exponentWidth? false false exponent with
                  | some width => some (pointed + 1 + width)
                  | none => some pointed
                else some pointed
            | [] => some pointed
        else
          match afterWhole with
          | letter :: exponent =>
              if letter = 'e' ∨ letter = 'E' then
                (exponentWidth? false false exponent).map (whole + 1 + ·)
              else none
          | [] => none

/-- Digits of a whole number in a base, low lines included; a decimal digit that the base lacks
spoils the number, and a letter that it lacks ends it. -/
def digitsWidth? (base : Nat) (isEmpty : Bool) : List Char → Option Nat
  | [] => if isEmpty then none else some 0
  | character :: rest =>
      if character = '_' then
        if isEmpty ∧ base = 10 then none
        else (digitsWidth? base isEmpty rest).map (· + 1)
      else
        match hexValue? character with
        | some value =>
            if value < base then (digitsWidth? base false rest).map (· + 1)
            else if character.isDigit then none
            else if isEmpty then none
            else some 0
        | none => if isEmpty then none else some 0

/-- A whole number without its suffix. -/
def wholeDigits? : List Char → Option Nat
  | '0' :: 'x' :: rest => (digitsWidth? 16 true rest).map (· + 2)
  | '0' :: 'o' :: rest => (digitsWidth? 8 true rest).map (· + 2)
  | '0' :: 'b' :: rest => (digitsWidth? 2 true rest).map (· + 2)
  | text => digitsWidth? 10 true text

/-- A number with its suffix, which must be an identifier if the number does not end there. -/
def endNumber? (text : List Char) (width : Nat) : Option Nat :=
  match text.drop width with
  | [] => some width
  | next :: rest =>
      if Unicode.isIdentifierStart next then
        some (width + identifierWidth (next :: rest))
      else if Unicode.isIdentifierContinue next then none
      else some width

/-- A number. -/
def number? (text : List Char) : Option Nat :=
  ((floatDigits? text).bind (endNumber? text)).or ((wholeDigits? text).bind (endNumber? text))

/-- A literal that is neither text nor a character. -/
def otherLiteral? (text : List Char) : Option Nat :=
  (byteText? text).or ((byte? text).or (number? text))

end Notation
end Rulebook
