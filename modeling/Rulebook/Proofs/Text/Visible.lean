import Rulebook.Proofs.Notation.Identifiers
import Rulebook.Proofs.Text.Escape

/-!
# Visible characters

Two texts show the same if they differ in white space only.  Names show all their characters, and so
do the escaped forms of texts without control characters.
-/

namespace Rulebook

/-- A check of the characters of a text visits these characters only, not all that exist. -/
instance (priority := 2000) decidableForallMemText {p : Char → Prop} [DecidablePred p]
    (text : List Char) : Decidable (∀ character ∈ text, p character) :=
  List.decidableBAll p text

/-- A text without blanks, and without line ends unless they count. -/
def visible (lines : Bool) (text : List Char) : List Char :=
  text.filter fun character => character != ' ' && (lines || character != '\n')

@[simp]
theorem visible_append (lines : Bool) (first second : List Char) :
    visible lines (first ++ second) = visible lines first ++ visible lines second :=
  List.filter_append ..

@[simp]
theorem visible_blank_cons (lines : Bool) (rest : List Char) :
    visible lines (' ' :: rest) = visible lines rest := by
  simp [visible]

@[simp]
theorem visible_replicate_blank (lines : Bool) (count : Nat) :
    visible lines (List.replicate count ' ') = [] := by
  simp [visible]

theorem visible_visible (lines : Bool) (text : List Char) :
    visible false (visible lines text) = visible false text := by
  simp only [visible, List.filter_filter]
  refine List.filter_congr fun character _ => ?_
  cases lines <;> grind

/-- A text without control characters and without the sign that fillers begin with. -/
def IsClean (text : List Char) : Prop :=
  ∀ character ∈ text, character ≠ '&' ∧ Unicode.isControl character = false

instance : DecidablePred IsClean := fun text =>
  decidableForallMemText text

theorem IsClean.not_mem {text : List Char} (clean : IsClean text) : '&' ∉ text :=
  fun member => (clean '&' member).1 rfl

theorem IsClean.append {first second : List Char} (clean : IsClean first) (also : IsClean second) :
    IsClean (first ++ second) :=
  fun character member => (List.mem_append.mp member).elim (clean character) (also character)

/-- The signs of the notation are clean. -/
theorem isClean_of_isSign {sign : String}
    (member : sign ∈ ["?", "+", "*", "~", "..", "|", "(", ")", "'", "[", "]"]) :
    IsClean sign.toList := by
  revert sign
  decide +kernel

/-- The escaped form of a clean text is clean. -/
theorem IsClean.escaped {delimiter : Char} (closes : Text.IsDelimiter delimiter) {text : List Char}
    (clean : IsClean text) : IsClean (Text.escapeCharacters delimiter text) := by
  intro written member
  refine ⟨?_, Text.isControl_of_mem_escapeCharacters closes member⟩
  obtain ⟨character, present, inside⟩ := List.mem_flatMap.mp member
  obtain ⟨no_filler, printable⟩ := clean character present
  have escapes := Text.escapes_escapeCharacter delimiter character
  generalize Text.escapeCharacter delimiter character = escaped at escapes inside
  rintro rfl
  cases escapes with
  | letter letter named =>
      simp [(Text.isControl_of_controlLetter? named).1] at printable
  | sign =>
      simp only [List.mem_cons, List.not_mem_nil, or_false] at inside
      rcases inside with backslash | same
      · exact absurd backslash (by decide)
      · exact no_filler same.symm
  | number control => simp [control] at printable
  | plain => exact no_filler (List.mem_singleton.mp inside).symm

theorem isNameCharacter_of_isControl {character : Char}
    (control : Unicode.isControl character = true) :
    Notation.isNameCharacter character = false := by
  have all : ∀ code : Fin 160, Unicode.isControl (Char.ofNat code) = true →
      Notation.isNameCharacter (Char.ofNat code) = false := by
    decide +kernel
  have low := all ⟨character.toNat, Text.toNat_lt_of_isControl control⟩
  simp only [Char.ofNat_toNat] at low
  exact low control

/-- Names are clean. -/
theorem isClean_of_isIdentifier {name : String} (identifier : Notation.IsIdentifier name) :
    IsClean name.toList := by
  intro character member
  have legal := identifier.isNameCharacter character member
  refine ⟨?_, eq_false_of_ne_true fun control => ?_⟩
  · rintro rfl
    exact absurd legal (by decide +kernel)
  · simp [isNameCharacter_of_isControl control] at legal

end Rulebook
