/-!
# Finds at the front of a text

A recogniser looks at the front of a text.  What it finds is a value together with the number of
characters that it spans, so that whoever asked can go on behind it.
-/

namespace Rulebook
namespace Text

/-- What was found at the front of a text, with the number of characters that it spans. -/
structure Found (Value : Type) where
  /-- What was found. -/
  value : Value
  /-- The number of characters that it spans. -/
  width : Nat
  deriving Repr

namespace Found

/-- The find in a text that has `extra` more characters in front. -/
def widen {Value : Type} (found : Found Value) (extra : Nat) : Found Value :=
  { found with width := found.width + extra }

/-- Another value for the same characters. -/
def map {First Second : Type} (change : First → Second) (found : Found First) : Found Second :=
  ⟨change found.value, found.width⟩

end Found

/-- Reads units of text up to an ending.  Both are found at the front of what is left; `skip`
characters belong to a unit already read. -/
def readUnits (ending? unit? : List Char → Option (Found (List Char))) :
    (skip : Nat) → List Char → Option (Found (List Char))
  | _, [] => none
  | skip + 1, _ :: rest => (readUnits ending? unit? skip rest).map (·.widen 1)
  | 0, character :: rest =>
      match ending? (character :: rest) with
      | some ending => some ending
      | none =>
          match unit? (character :: rest) with
          | none => none
          | some unit =>
              (readUnits ending? unit? (unit.width - 1) rest).map fun found =>
                ⟨unit.value ++ found.value, found.width + 1⟩

/-- The value of a hexadecimal digit. -/
def hexValue? (character : Char) : Option Nat :=
  if character.isDigit then some (character.toNat - '0'.toNat)
  else if 'a' ≤ character ∧ character ≤ 'f' then some (character.toNat - 'a'.toNat + 10)
  else if 'A' ≤ character ∧ character ≤ 'F' then some (character.toNat - 'A'.toNat + 10)
  else none

/-- Is the code point a character? -/
def isScalar (code : Nat) : Bool :=
  code < 0xD800 || (0xDFFF < code && code < 0x110000)

end Text
end Rulebook
