import Mathlib.Data.List.Basic
import Rulebook.Text.Escape
import Rulebook.Text.Found

/-!
# Escaped text read back

Escaped text can be read back, whichever of the two delimiters it stands before, and it holds no
control character.
-/

namespace Rulebook
namespace Text

/-- The character that a letter after a backslash stands for. -/
def unescapeLetter (letter : Char) : Char :=
  if letter = 'n' then '\n'
  else if letter = 'r' then '\r'
  else if letter = 't' then '\t'
  else if letter = 'b' then '\x08'
  else if letter = 'f' then '\x0c'
  else letter

/-- The number that hexadecimal digits stand for. -/
def hexNumber (digits : List Char) : Nat :=
  digits.foldl (fun value digit => 16 * value + (hexValue? digit).getD 0) 0

/-- The text that an escaped text stands for. -/
def unescape : List Char → List Char
  | [] => []
  | '\\' :: 'u' :: first :: second :: third :: fourth :: rest =>
      Char.ofNat (hexNumber [first, second, third, fourth]) :: unescape rest
  | '\\' :: letter :: rest => unescapeLetter letter :: unescape rest
  | character :: rest => character :: unescape rest

/-- A delimiter before which text is escaped. -/
inductive IsDelimiter : Char → Prop where
  /-- The quote that closes a literal. -/
  | quote : IsDelimiter '\''
  /-- The bracket that closes a character set. -/
  | bracket : IsDelimiter ']'

/-! ### Hexadecimal digits -/

theorem hexValue?_upperHexDigit {value : Nat} (small : value < 16) :
    hexValue? (upperHexDigit value) = some value := by
  have all : ∀ digit : Fin 16, hexValue? (upperHexDigit digit) = some digit.val := by decide +kernel
  exact all ⟨value, small⟩

theorem upperHexDigit_plain {value : Nat} (small : value < 16) :
    Unicode.isControl (upperHexDigit value) = false ∧ upperHexDigit value ≠ '\\' ∧
      upperHexDigit value ≠ '\'' ∧ upperHexDigit value ≠ ']' := by
  have all : ∀ digit : Fin 16, Unicode.isControl (upperHexDigit digit) = false ∧
      upperHexDigit digit ≠ '\\' ∧ upperHexDigit digit ≠ '\'' ∧ upperHexDigit digit ≠ ']' := by
    decide +kernel
  exact all ⟨value, small⟩

theorem hexNumber_fourHexDigits {value : Nat} (small : value < 65536) :
    hexNumber (fourHexDigits value) = value := by
  simp only [hexNumber, fourHexDigits, List.foldl_cons, List.foldl_nil]
  rw [hexValue?_upperHexDigit (by omega), hexValue?_upperHexDigit (by omega),
    hexValue?_upperHexDigit (by omega), hexValue?_upperHexDigit (by omega)]
  simp only [Option.getD_some]
  omega

theorem isControl_eq_false_iff {character : Char} : Unicode.isControl character = false ↔
    0x1F < character.toNat ∧ (character.toNat < 0x7F ∨ 0x9F < character.toNat) := by
  simp [Unicode.isControl, Unicode.CodeRange.covers, Unicode.CodeRange.coversCode]
  omega

theorem toNat_lt_of_isControl {character : Char} (control : Unicode.isControl character = true) :
    character.toNat < 160 := by
  have held : ¬ Unicode.isControl character = false := by simp [control]
  rw [isControl_eq_false_iff] at held
  omega

/-! ### Single characters -/

/-- What a character is escaped to. -/
inductive Escapes (delimiter : Char) : Char → List Char → Prop where
  /-- A control character that has a letter. -/
  | letter {character : Char} (letter : Char)
      (named : controlLetter? character = some letter) :
      Escapes delimiter character ['\\', letter]
  /-- The backslash or the delimiter. -/
  | sign {character : Char} (special : character = '\\' ∨ character = delimiter) :
      Escapes delimiter character ['\\', character]
  /-- A control character without a letter. -/
  | number {character : Char} (control : Unicode.isControl character = true) :
      Escapes delimiter character ('\\' :: 'u' :: fourHexDigits character.toNat)
  /-- Any other character. -/
  | plain {character : Char} (printable : Unicode.isControl character = false)
      (no_backslash : character ≠ '\\') (no_delimiter : character ≠ delimiter) :
      Escapes delimiter character [character]

theorem escapes_escapeCharacter (delimiter character : Char) :
    Escapes delimiter character (escapeCharacter delimiter character) := by
  unfold escapeCharacter
  split
  · rename_i letter named
    exact .letter letter named
  · split
    · exact .sign (by assumption)
    · rename_i ordinary
      push Not at ordinary
      split
      · exact .number (by assumption)
      · exact .plain (eq_false_of_ne_true ‹_›) ordinary.1 ordinary.2

theorem controlLetter?_cases {character letter : Char}
    (named : controlLetter? character = some letter) :
    (character, letter) ∈ [('\n', 'n'), ('\r', 'r'), ('\t', 't'), ('\x08', 'b'), ('\x0c', 'f')] := by
  unfold controlLetter? at named
  grind

/-- Control characters with a letter are escaped by printable letters. -/
theorem isControl_of_controlLetter? {character letter : Char}
    (named : controlLetter? character = some letter) :
    Unicode.isControl character = true ∧ Unicode.isControl letter = false := by
  have each : ∀ pair ∈ [('\n', 'n'), ('\r', 'r'), ('\t', 't'), ('\x08', 'b'), ('\x0c', 'f')],
      Unicode.isControl pair.1 = true ∧ Unicode.isControl pair.2 = false := by
    decide +kernel
  exact each _ (controlLetter?_cases named)

/-- The signs of escapes and delimiters are printable. -/
theorem isControl_of_isEscapeSign {sign : Char} (member : sign ∈ ['\\', 'u', '\'', ']']) :
    Unicode.isControl sign = false := by
  simp only [List.mem_cons, List.not_mem_nil, or_false] at member
  rcases member with rfl | rfl | rfl | rfl <;> decide +kernel

theorem unescape_escapeCharacter_append {delimiter : Char} (closes : IsDelimiter delimiter)
    (character : Char) (rest : List Char) :
    unescape (escapeCharacter delimiter character ++ rest) = character :: unescape rest := by
  have escapes := escapes_escapeCharacter delimiter character
  generalize escapeCharacter delimiter character = escaped at escapes ⊢
  cases escapes with
  | letter letter named =>
      have cases := controlLetter?_cases named
      simp only [List.mem_cons, Prod.mk.injEq, List.not_mem_nil, or_false] at cases
      rcases cases with ⟨rfl, rfl⟩ | ⟨rfl, rfl⟩ | ⟨rfl, rfl⟩ | ⟨rfl, rfl⟩ | ⟨rfl, rfl⟩ <;>
        simp [unescape, unescapeLetter]
  | sign special =>
      rcases special with rfl | rfl
      · simp [unescape, unescapeLetter]
      · cases closes <;> simp [unescape, unescapeLetter]
  | number control =>
      have small := toNat_lt_of_isControl control
      have digits : hexNumber (fourHexDigits character.toNat) = character.toNat :=
        hexNumber_fourHexDigits (by omega)
      simp only [fourHexDigits, List.cons_append, List.nil_append, unescape] at digits ⊢
      rw [digits, Char.ofNat_toNat]
  | plain printable no_backslash no_delimiter =>
      rw [List.singleton_append, unescape]
      · exact fun _ _ _ _ _ backslash => (no_backslash backslash).elim
      · exact fun _ _ backslash => (no_backslash backslash).elim

/-- Escaped text stands for the text that was escaped. -/
theorem unescape_escapeCharacters {delimiter : Char} (closes : IsDelimiter delimiter)
    (text : List Char) : unescape (escapeCharacters delimiter text) = text := by
  induction text with
  | nil => rfl
  | cons character text induction =>
      rw [escapeCharacters, List.flatMap_cons, unescape_escapeCharacter_append closes]
      exact congrArg _ induction

theorem isControl_of_mem_escapeCharacter {delimiter : Char} (closes : IsDelimiter delimiter)
    {character written : Char} (member : written ∈ escapeCharacter delimiter character) :
    Unicode.isControl written = false := by
  have escapes := escapes_escapeCharacter delimiter character
  generalize escapeCharacter delimiter character = escaped at escapes member
  cases escapes with
  | letter letter named =>
      simp only [List.mem_cons, List.not_mem_nil, or_false] at member
      rcases member with rfl | rfl
      · exact isControl_of_isEscapeSign (by simp)
      · exact (isControl_of_controlLetter? named).2
  | sign special =>
      simp only [List.mem_cons, List.not_mem_nil, or_false] at member
      rcases member with rfl | rfl
      · exact isControl_of_isEscapeSign (by simp)
      · rcases special with rfl | rfl
        · exact isControl_of_isEscapeSign (by simp)
        · exact isControl_of_isEscapeSign (by cases closes <;> simp)
  | number control =>
      simp only [fourHexDigits, List.mem_cons, List.not_mem_nil, or_false] at member
      rcases member with rfl | rfl | rfl | rfl | rfl | rfl
      · exact isControl_of_isEscapeSign (by simp)
      · exact isControl_of_isEscapeSign (by simp)
      all_goals exact (upperHexDigit_plain (by omega)).1
  | plain printable =>
      rw [List.mem_singleton] at member
      rw [member]
      exact printable

/-- Escaped text holds no control character. -/
theorem isControl_of_mem_escapeCharacters {delimiter : Char} (closes : IsDelimiter delimiter)
    {text : List Char} {written : Char} (member : written ∈ escapeCharacters delimiter text) :
    Unicode.isControl written = false := by
  obtain ⟨character, _, inside⟩ := List.mem_flatMap.mp member
  exact isControl_of_mem_escapeCharacter closes inside

theorem toList_quotedLiteral (text : String) :
    (quotedLiteral text).toList = '\'' :: (escapeCharacters '\'' text.toList ++ ['\'']) := by
  simp [quotedLiteral, escapeLiteral]

theorem toList_bracketedSet (text : String) :
    (bracketedSet text).toList = '[' :: (escapeCharacters ']' text.toList ++ [']']) := by
  simp [bracketedSet, escapeSet]

/-- Escaped text before its delimiter holds no control character. -/
theorem isControl_of_mem_delimited {delimiter : Char} (closes : IsDelimiter delimiter)
    {text : List Char} {written : Char}
    (member : written ∈ escapeCharacters delimiter text ++ [delimiter]) :
    Unicode.isControl written = false := by
  rcases List.mem_append.mp member with inside | last
  · exact isControl_of_mem_escapeCharacters closes inside
  · rw [List.mem_singleton.mp last]
    exact isControl_of_isEscapeSign (by cases closes <;> simp)

/-- A literal between its quotes holds no control character. -/
theorem isControl_of_mem_quotedLiteral {text : String} {written : Char}
    (member : written ∈ (quotedLiteral text).toList) : Unicode.isControl written = false := by
  rw [toList_quotedLiteral] at member
  rcases List.mem_cons.mp member with rfl | later
  · decide +kernel
  · exact isControl_of_mem_delimited .quote later

/-- A character set between its brackets holds no control character. -/
theorem isControl_of_mem_bracketedSet {text : String} {written : Char}
    (member : written ∈ (bracketedSet text).toList) : Unicode.isControl written = false := by
  rw [toList_bracketedSet] at member
  rcases List.mem_cons.mp member with rfl | later
  · decide +kernel
  · exact isControl_of_mem_delimited .bracket later

end Text
end Rulebook
