import Mathlib.Algebra.Ring.Parity
import Mathlib.Data.List.DropRight
import Rulebook.Proofs.Text.Escape

/-!
# Escaped text before its delimiter

An escaped text ends at the first delimiter that no backslash escapes.  So a decoder that knows the
delimiter finds the end of the text, whatever follows, and the text can be read back.
-/

namespace Rulebook
namespace Text

/-! ### Delimiters that are escaped -/

/-- Does a text end in a backslash that escapes what follows?  Backslashes escape one another in
pairs. -/
def EscapesNext (text : List Char) : Prop :=
  Odd (text.rtakeWhile (· == '\\')).length

instance (text : List Char) : Decidable (EscapesNext text) :=
  inferInstanceAs (Decidable (Odd _))

theorem not_escapesNext_nil : ¬ EscapesNext [] := by
  decide

theorem escapesNext_concat (text : List Char) (character : Char) :
    EscapesNext (text ++ [character]) ↔ character = '\\' ∧ ¬ EscapesNext text := by
  unfold EscapesNext
  rw [List.rtakeWhile_concat]
  by_cases backslash : character = '\\'
  · simp [backslash, Nat.odd_add_one]
  · simp [backslash]

/-- What is not escaped begins afresh. -/
theorem escapesNext_append {first : List Char} (ended : ¬ EscapesNext first) (second : List Char) :
    EscapesNext (first ++ second) ↔ EscapesNext second := by
  induction second using List.reverseRecOn with
  | nil => simp [ended, not_escapesNext_nil]
  | append_singleton second character induction =>
      rw [← List.append_assoc, escapesNext_concat, escapesNext_concat, induction]

/-- Is every delimiter in a text escaped, and a delimiter behind the text not? -/
structure IsShielded (delimiter : Char) (text : List Char) : Prop where
  /-- What follows the text is not escaped. -/
  ended : ¬ EscapesNext text
  /-- What stands before a delimiter in the text escapes it. -/
  escaped : ∀ before after, text = before ++ delimiter :: after → EscapesNext before

namespace IsShielded

variable {delimiter : Char} {first second text : List Char}

theorem nil : IsShielded delimiter [] :=
  ⟨not_escapesNext_nil, by simp⟩

theorem append (shielded : IsShielded delimiter first) (later : IsShielded delimiter second) :
    IsShielded delimiter (first ++ second) := by
  refine ⟨(escapesNext_append shielded.ended second).not.mpr later.ended, ?_⟩
  intro before after same
  rcases List.append_eq_append_iff.mp same with ⟨middle, rfl, rest⟩ | ⟨middle, rfl, rest⟩
  · exact (escapesNext_append shielded.ended middle).mpr (later.escaped middle after rest)
  · cases middle with
    | nil => exact absurd (later.escaped [] after rest.symm) not_escapesNext_nil
    | cons character middle =>
        obtain ⟨rfl, -⟩ := List.cons.inj rest
        exact shielded.escaped before middle rfl

/-- Behind a shielded beginning the rest is shielded by itself. -/
theorem of_append (shielded : IsShielded delimiter (first ++ second))
    (ended : ¬ EscapesNext first) : IsShielded delimiter second := by
  refine ⟨(escapesNext_append ended second).not.mp shielded.ended, fun before after same => ?_⟩
  have inside : first ++ second = (first ++ before) ++ delimiter :: after := by
    rw [same, List.append_assoc]
  exact (escapesNext_append ended before).mp (shielded.escaped _ after inside)

/-- A character without meaning. -/
theorem single {character : Char} (no_backslash : character ≠ '\\')
    (no_delimiter : character ≠ delimiter) : IsShielded delimiter [character] := by
  refine ⟨fun escapes => no_backslash ((escapesNext_concat [] character).mp escapes).1, ?_⟩
  intro before after same
  rcases List.singleton_eq_append_iff.mp same with ⟨-, last⟩ | ⟨-, none⟩
  · exact (no_delimiter (List.cons.inj last).1.symm).elim
  · simp at none

theorem of_plain (plain : ∀ character ∈ text, character ≠ '\\' ∧ character ≠ delimiter) :
    IsShielded delimiter text := by
  induction text with
  | nil => exact nil
  | cons character text induction =>
      rw [List.forall_mem_cons] at plain
      exact (single plain.1.1 plain.1.2).append (induction plain.2)

/-- A backslash and what it escapes. -/
theorem pair (other : delimiter ≠ '\\') (character : Char) :
    IsShielded delimiter ['\\', character] := by
  have opens : EscapesNext ['\\'] := by decide
  refine ⟨fun escapes => ((escapesNext_concat ['\\'] character).mp escapes).2 opens, ?_⟩
  intro before after same
  match before, same with
  | [], same => exact (other (List.cons.inj same).1.symm).elim
  | ['\\'], _ => exact opens
  | first :: second :: before, same => simp at same

end IsShielded

theorem IsDelimiter.ne_backslash {delimiter : Char} (closes : IsDelimiter delimiter) :
    delimiter ≠ '\\' := by
  cases closes <;> decide

theorem isShielded_escapeCharacter {delimiter : Char} (closes : IsDelimiter delimiter)
    (character : Char) : IsShielded delimiter (escapeCharacter delimiter character) := by
  have escapes := escapes_escapeCharacter delimiter character
  generalize escapeCharacter delimiter character = escaped at escapes ⊢
  cases escapes with
  | letter letter => exact .pair closes.ne_backslash letter
  | sign => exact .pair closes.ne_backslash character
  | number =>
      have digits : ∀ digit ∈ fourHexDigits character.toNat, digit ≠ '\\' ∧ digit ≠ delimiter := by
        have plain (value : Nat) : upperHexDigit (value % 16) ≠ '\\' ∧
            upperHexDigit (value % 16) ≠ delimiter := by
          obtain ⟨-, backslash, quote, bracket⟩ :=
            upperHexDigit_plain (Nat.mod_lt value (by decide : 16 > 0))
          cases closes
          · exact ⟨backslash, quote⟩
          · exact ⟨backslash, bracket⟩
        simp [fourHexDigits, plain]
      exact (IsShielded.pair closes.ne_backslash 'u').append (.of_plain digits)
  | plain _ no_backslash no_delimiter => exact .single no_backslash no_delimiter

/-- In an escaped text every delimiter is escaped, and the one that closes it is not. -/
theorem isShielded_escapeCharacters {delimiter : Char} (closes : IsDelimiter delimiter)
    (text : List Char) : IsShielded delimiter (escapeCharacters delimiter text) := by
  induction text with
  | nil => exact .nil
  | cons character text induction =>
      exact (isShielded_escapeCharacter closes character).append induction

/-! ### The decoder -/

/-- The text before the first delimiter that is not escaped, and what follows that delimiter. -/
def splitClosing (delimiter : Char) : List Char → Option (List Char × List Char)
  | [] => none
  | '\\' :: escaped :: rest =>
      (splitClosing delimiter rest).map fun parts => ('\\' :: escaped :: parts.1, parts.2)
  | character :: rest =>
      if character = delimiter then some ([], rest)
      else (splitClosing delimiter rest).map fun parts => (character :: parts.1, parts.2)

/-- Reads an escaped text up to the delimiter that closes it: what it stands for, and what follows. -/
def readDelimited (delimiter : Char) (text : List Char) : Option (List Char × List Char) :=
  (splitClosing delimiter text).map fun parts => (unescape parts.1, parts.2)

theorem splitClosing_cons {delimiter character : Char} (no_backslash : character ≠ '\\')
    (rest : List Char) :
    splitClosing delimiter (character :: rest) =
      if character = delimiter then some ([], rest)
      else (splitClosing delimiter rest).map fun parts => (character :: parts.1, parts.2) := by
  rw [splitClosing.eq_3]
  exact fun _ _ backslash => (no_backslash backslash).elim

/-- A shielded text is split off at the delimiter behind it. -/
theorem splitClosing_of_isShielded {delimiter : Char} (other : delimiter ≠ '\\') {text : List Char}
    (shielded : IsShielded delimiter text) (rest : List Char) :
    splitClosing delimiter (text ++ delimiter :: rest) = some (text, rest) := by
  fun_induction splitClosing delimiter text with
  | case1 => rw [List.nil_append, splitClosing_cons other, if_pos rfl]
  | case2 escaped text induction =>
      have opened : IsShielded delimiter ['\\', escaped] := .pair other escaped
      have later : IsShielded delimiter text := shielded.of_append opened.ended
      rw [List.cons_append, List.cons_append, splitClosing, induction later]
      rfl
  | case3 text =>
      exact absurd (shielded.escaped [] text rfl) not_escapesNext_nil
  | case4 character text no_pair no_delimiter induction =>
      -- A backslash at the end of the text would escape the delimiter.
      have no_backslash : character ≠ '\\' := by
        rintro rfl
        cases text with
        | nil => exact shielded.ended (by decide)
        | cons escaped text => exact no_pair escaped text rfl rfl
      have begun : IsShielded delimiter [character] := .single no_backslash no_delimiter
      have later : IsShielded delimiter text := shielded.of_append begun.ended
      rw [List.cons_append, splitClosing_cons no_backslash, if_neg no_delimiter, induction later]
      rfl

/-- Does a decoder undo an escaping, whatever follows the delimiter? -/
structure IsDecodedBy (delimiter : Char) (escape : String → String)
    (decode : List Char → Option (List Char × List Char)) : Prop where
  /-- The decoder gives the text that was escaped, and what follows its delimiter. -/
  decode_eq : ∀ value rest,
    decode ((escape value).toList ++ delimiter :: rest) = some (value.toList, rest)
  /-- Different texts are escaped differently. -/
  injective : Function.Injective escape
  /-- The first delimiter that is not escaped is the one that closes the text. -/
  shielded : ∀ value, IsShielded delimiter (escape value).toList
  /-- An escaped text holds no control characters. -/
  printable : ∀ value, ∀ character ∈ (escape value).toList,
    0x1F < character.toNat ∧ (character.toNat < 0x7F ∨ 0x9F < character.toNat)

theorem isDecodedBy_of_isDelimiter {delimiter : Char} (closes : IsDelimiter delimiter)
    {escape : String → String}
    (escapes : ∀ value, (escape value).toList = escapeCharacters delimiter value.toList) :
    IsDecodedBy delimiter escape (readDelimited delimiter) := by
  have decode_eq (value : String) (rest : List Char) :
      readDelimited delimiter ((escape value).toList ++ delimiter :: rest) =
        some (value.toList, rest) := by
    rw [escapes, readDelimited, splitClosing_of_isShielded closes.ne_backslash
      (isShielded_escapeCharacters closes value.toList), Option.map_some,
      unescape_escapeCharacters closes]
  refine ⟨decode_eq, fun first second same => ?_, fun value => ?_, fun value character member => ?_⟩
  · have both := (decode_eq first []).symm.trans (same ▸ decode_eq second [])
    exact String.toList_inj.mp (Prod.mk.inj (Option.some.inj both)).1
  · rw [escapes]
    exact isShielded_escapeCharacters closes value.toList
  · rw [escapes] at member
    exact isControl_eq_false_iff.mp (isControl_of_mem_escapeCharacters closes member)

/-- Literals and character sets are escaped so that one decoder for each delimiter reads them back,
whatever follows. -/
theorem isDecodedBy_readDelimited :
    IsDecodedBy '\'' escapeLiteral (readDelimited '\'') ∧
      IsDecodedBy ']' escapeSet (readDelimited ']') :=
  ⟨isDecodedBy_of_isDelimiter .quote fun _ => String.toList_ofList,
    isDecodedBy_of_isDelimiter .bracket fun _ => String.toList_ofList⟩

example : readDelimited '\'' "\\\\\\'\\u0085\\n' ;".toList =
    some ("\\'\u0085\n".toList, " ;".toList) := by
  decide +kernel

end Text
end Rulebook
