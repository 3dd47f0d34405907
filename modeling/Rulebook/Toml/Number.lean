import Rulebook.Text.Found

/-!
# Numbers of a settings file

Whole numbers and numbers with a fraction or an exponent.  Low lines may stand between the digits of
a number, and a decimal number has no leading zeros.
-/

namespace Rulebook
namespace Toml

open Text (hexValue?)

/-- The value of a digit in a base. -/
def digitIn? (base : Nat) (character : Char) : Option Nat :=
  match hexValue? character with
  | some value => if value < base then some value else none
  | none => none

/-- Digits in a base with single low lines between them, given what the ones before are worth and
whether a digit stands directly before. -/
def digitsFrom? (base value : Nat) (afterDigit : Bool) : List Char → Option Nat
  | [] => if afterDigit then some value else none
  | character :: rest =>
      if character = '_' then
        if afterDigit then digitsFrom? base value false rest else none
      else
        match digitIn? base character with
        | some digit => digitsFrom? base (value * base + digit) true rest
        | none => none

/-- The number that digits in a base denote. -/
def digits? (base : Nat) (text : List Char) : Option Nat :=
  digitsFrom? base 0 false text

/-- A decimal number without sign and without leading zeros. -/
def decimal? : List Char → Option Nat
  | ['0'] => some 0
  | '0' :: _ => none
  | text => digits? 10 text

/-- A sign at the front of a number, and what follows it. -/
def signed : List Char → Bool × List Char
  | '-' :: rest => (true, rest)
  | '+' :: rest => (false, rest)
  | text => (false, text)

/-- Whole numbers that a file can hold. -/
def isRepresentable (value : Int) : Bool :=
  decide (-Int.ofNat (1 <<< 127) ≤ value) && decide (value < Int.ofNat (1 <<< 128))

/-- A whole number, decimal or in another base. -/
def integer? (text : List Char) : Option Int :=
  let number? : Option Int :=
    match text with
    | '0' :: 'x' :: rest => (digits? 16 rest).map Int.ofNat
    | '0' :: 'o' :: rest => (digits? 8 rest).map Int.ofNat
    | '0' :: 'b' :: rest => (digits? 2 rest).map Int.ofNat
    | _ =>
        let (negative, magnitude) := signed text
        (decimal? magnitude).map fun value => if negative then -Int.ofNat value else Int.ofNat value
  number?.filter isRepresentable

/-- Is the letter one that opens an exponent? -/
def opensExponent (character : Char) : Bool :=
  character == 'e' || character == 'E'

/-- The exponent from its letter on, or zero if there is none. -/
def exponent? : List Char → Option Int
  | [] => some 0
  | _ :: text =>
      let (negative, magnitude) := signed text
      (digits? 10 magnitude).map fun value => if negative then -Int.ofNat value else Int.ofNat value

/-- The digits of a fraction from its full stop on, or none if there is no fraction. -/
def fraction? : List Char → Option (List Char)
  | [] => some []
  | _ :: text => if (digits? 10 text).isSome then some (text.filter Char.isDigit) else none

/-- Is `digits` times ten to the power of `scale` more than a number of double precision can be?
A number with more than 309 digits before its point is, and one with fewer is not. -/
def overflows (digits : Nat) (scale : Int) : Bool :=
  let count := Int.ofNat (Nat.toDigits 10 digits).length + scale
  if digits = 0 ∨ count < 309 then false
  else if 309 < count then true
  else
    decide (((1 <<< 1024) - (1 <<< 970)) * Nat.pow 10 (-scale).toNat ≤
      digits * Nat.pow 10 scale.toNat)

/-- A number with a fraction, an exponent or both, or one of the special numbers. -/
def isDecimal (text : List Char) : Bool :=
  let magnitude := (signed text).2
  let mantissa := magnitude.takeWhile fun character => !opensExponent character
  let whole := mantissa.takeWhile (· != '.')
  magnitude == ['i', 'n', 'f'] || magnitude == ['n', 'a', 'n'] ||
    match decimal? whole, fraction? (mantissa.drop whole.length),
        exponent? (magnitude.drop mantissa.length) with
    | some _, some fraction, some exponent =>
        whole.length < magnitude.length &&
          match digits? 10 (whole ++ fraction) with
          | some digits => !overflows digits (exponent - Int.ofNat fraction.length)
          | none => false
    | _, _, _ => false

end Toml
end Rulebook
