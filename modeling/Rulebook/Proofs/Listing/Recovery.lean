import Rulebook.Proofs.Listing.Layout
import Rulebook.Proofs.Listing.Marks
import Rulebook.Proofs.Notation.Identifiers
import Rulebook.Proofs.Text.Escape

/-!
# Recovery of marks

The marks of a body are recovered from its text, however the soft breaks were resolved.  The reader
goes from character to character and keeps the groups that are open.
-/

namespace Rulebook
namespace Listing

/-- A group that is being read. -/
structure Frame where
  /-- The alternatives before the present one. -/
  alternatives : List (List Mark) := []
  /-- The elements of the present alternative before the present one. -/
  elements : List (List Mark) := []
  /-- The marks of the present element so far. -/
  row : List Mark := []

namespace Frame

/-- Adds a mark to the present element. -/
def add (mark : Mark) (frame : Frame) : Frame :=
  { frame with row := frame.row ++ [mark] }

/-- Adds a letter to the name at the end of the present element, which it may begin. -/
def addLetter (letter : Char) (frame : Frame) : Frame :=
  match frame.row.getLast? with
  | some (.name letters) =>
      { frame with row := frame.row.dropLast ++ [.name (letters ++ [letter])] }
  | _ => frame.add (.name [letter])

/-- Ends the present element. -/
def endElement (frame : Frame) : Frame :=
  { frame with elements := frame.elements ++ [frame.row], row := [] }

/-- Ends the present alternative, whose elements have ended. -/
def endAlternative (frame : Frame) : Frame :=
  { alternatives := frame.alternatives ++ [Mark.inOrder frame.elements] }

/-- The marks of the whole group. -/
def close (frame : Frame) : List Mark :=
  Mark.oneOf frame.endElement.endAlternative.alternatives

end Frame

/-- What the reader of a listing expects next. -/
inductive Mode where
  /-- Anything. -/
  | plain
  /-- A number of blanks and then anything. -/
  | blanks (count : Nat)
  /-- The bar of the next alternative or the indent of a continued line. -/
  | lineStart
  /-- The rest of a leaf up to its delimiter, after a backslash or not. -/
  | quoted (delimiter : Char) (escaped : Bool) (body : List Char)

/-- How far a listing has been read. -/
structure Recovery where
  /-- What is expected next. -/
  mode : Mode := .plain
  /-- The innermost group. -/
  frame : Frame := {}
  /-- The groups around it, from the inside out. -/
  outer : List Frame := []

/-- The mark of a leaf between delimiters. -/
def quotedMark (delimiter : Char) (body : List Char) : Mark :=
  if delimiter = '\'' then .literal (Text.unescape body) else .charSet (Text.unescape body)

namespace Recovery

/-- Closes the innermost group. -/
def leave (recovery : Recovery) : Recovery :=
  match recovery.outer with
  | [] => recovery
  | around :: outer =>
      { frame := { around with row := around.row ++ recovery.frame.close }, outer }

/-- Reads a character where anything may stand. -/
def readPlain (recovery : Recovery) (character : Char) : Recovery :=
  if character = ' ' then { recovery with frame := recovery.frame.endElement }
  else if character = '\n' then
    { recovery with mode := .lineStart, frame := recovery.frame.endElement }
  else if character = '|' then
    { recovery with mode := .blanks 1, frame := recovery.frame.endAlternative }
  else if character = '(' then { frame := {}, outer := recovery.frame :: recovery.outer }
  else if character = ')' then recovery.leave
  else if character = '\'' then { recovery with mode := .quoted '\'' false [] }
  else if character = '[' then { recovery with mode := .quoted ']' false [] }
  else if Notation.isNameCharacter character then
    { recovery with frame := recovery.frame.addLetter character }
  else { recovery with frame := recovery.frame.add (.sign character) }

/-- Reads a character. -/
def step (recovery : Recovery) (character : Char) : Recovery :=
  match recovery.mode with
  | .plain => recovery.readPlain character
  | .blanks count =>
      { recovery with mode := if count ≤ 1 then .plain else .blanks (count - 1) }
  | .lineStart =>
      if character = '|' then
        { recovery with mode := .blanks 1, frame := recovery.frame.endAlternative }
      else { recovery with mode := .blanks 3 }
  | .quoted delimiter true body =>
      { recovery with mode := .quoted delimiter false (body ++ [character]) }
  | .quoted delimiter false body =>
      if character = delimiter then
        { recovery with mode := .plain, frame := recovery.frame.add (quotedMark delimiter body) }
      else
        { recovery with mode := .quoted delimiter (character == '\\') (body ++ [character]) }

/-- Reads a text. -/
def run (recovery : Recovery) (text : List Char) : Recovery :=
  text.foldl step recovery

end Recovery

/-- The marks that the text of a body shows. -/
def recover (text : List Char) : List Mark :=
  (Recovery.run {} text).frame.close

/-! ### Single characters -/

namespace Recovery

@[simp]
theorem run_nil (recovery : Recovery) : recovery.run [] = recovery := rfl

@[simp]
theorem run_cons (recovery : Recovery) (character : Char) (rest : List Char) :
    recovery.run (character :: rest) = (recovery.step character).run rest := rfl

theorem run_append (recovery : Recovery) (first second : List Char) :
    recovery.run (first ++ second) = (recovery.run first).run second :=
  List.foldl_append

/-- A blank between elements ends the first of them. -/
theorem run_blank (frame : Frame) (outer : List Frame) :
    run { frame, outer } [' '] = { frame := frame.endElement, outer } := rfl

/-- So does the beginning of a continued line. -/
theorem run_continuationBreak (frame : Frame) (outer : List Frame) :
    run { frame, outer } continuationBreak = { frame := frame.endElement, outer } := rfl

/-- A bar between blanks ends an alternative. -/
theorem run_bar (frame : Frame) (outer : List Frame) :
    run { frame, outer } [' ', '|', ' '] =
      { frame := frame.endElement.endAlternative, outer } := rfl

/-- So does a bar at the beginning of a line. -/
theorem run_lineBar (frame : Frame) (outer : List Frame) :
    run { frame, outer } ['\n', '|', ' '] =
      { frame := frame.endElement.endAlternative, outer } := rfl

theorem run_opening (frame : Frame) (outer : List Frame) :
    run { frame, outer } ['('] = { outer := frame :: outer } := rfl

theorem run_closing (frame around : Frame) (outer : List Frame) :
    run { frame, outer := around :: outer } [')'] =
      { frame := { around with row := around.row ++ frame.close }, outer } := rfl

theorem run_sign {symbol : Char} (sign : symbol ∈ ['?', '+', '*', '~', '.']) (frame : Frame)
    (outer : List Frame) :
    run { frame, outer } [symbol] = { frame := frame.add (.sign symbol), outer } := by
  have no_letter : Notation.isNameCharacter symbol = false := by
    revert symbol
    decide +kernel
  have others : ∀ other ∈ [' ', '\n', '|', '(', ')', '\'', '['], symbol ≠ other := by
    revert symbol
    decide +kernel
  simp only [List.forall_mem_cons] at others
  simp [step, readPlain, no_letter, others]

theorem run_letter {letter : Char} (legal : Notation.isNameCharacter letter = true) (frame : Frame)
    (outer : List Frame) :
    run { frame, outer } [letter] = { frame := frame.addLetter letter, outer } := by
  have no_signs : ∀ sign ∈ [' ', '\n', '|', '(', ')', '\'', '['],
      Notation.isNameCharacter sign = false := by
    decide +kernel
  have others : ∀ sign ∈ [' ', '\n', '|', '(', ')', '\'', '['], letter ≠ sign := by
    rintro sign member rfl
    simp [no_signs letter member] at legal
  simp only [List.forall_mem_cons] at others
  simp [step, readPlain, legal, others]

end Recovery

/-! ### Leaves -/

/-- Does a letter begin a name after the present element? -/
def Frame.IsOpen (frame : Frame) : Prop :=
  ∀ letters, frame.row.getLast? ≠ some (.name letters)

theorem Frame.isOpen_nil (alternatives elements : List (List Mark)) :
    Frame.IsOpen { alternatives, elements } := by
  simp [IsOpen]

theorem Frame.isOpen_add_sign (frame : Frame) (symbol : Char) :
    (frame.add (.sign symbol)).IsOpen := by
  simp [IsOpen, add]

theorem Frame.addLetter_add_name (frame : Frame) (letters : List Char) (letter : Char) :
    (frame.add (.name letters)).addLetter letter = frame.add (.name (letters ++ [letter])) := by
  simp [addLetter, add]

theorem Frame.addLetter_of_isOpen {frame : Frame} (fresh : frame.IsOpen) (letter : Char) :
    frame.addLetter letter = frame.add (.name [letter]) := by
  unfold addLetter
  split
  · rename_i letters last
    exact (fresh letters last).elim
  · rfl

namespace Recovery

theorem run_letters {letters : List Char}
    (legal : ∀ letter ∈ letters, Notation.isNameCharacter letter = true) (before : List Char)
    (frame : Frame) (outer : List Frame) :
    run { frame := frame.add (.name before), outer } letters =
      { frame := frame.add (.name (before ++ letters)), outer } := by
  induction letters generalizing before with
  | nil => simp
  | cons letter letters induction =>
      rw [List.forall_mem_cons] at legal
      have first := run_letter legal.1 (frame.add (.name before)) outer
      rw [run_cons, run_nil] at first
      rw [run_cons, first, Frame.addLetter_add_name, induction legal.2, List.append_assoc,
        List.singleton_append]

/-- A name is read as its letters. -/
theorem run_name {letters : List Char} (some : letters ≠ [])
    (legal : ∀ letter ∈ letters, Notation.isNameCharacter letter = true) {frame : Frame}
    (fresh : frame.IsOpen) (outer : List Frame) :
    run { frame, outer } letters = { frame := frame.add (.name letters), outer } := by
  cases letters with
  | nil => exact (some rfl).elim
  | cons letter letters =>
      rw [List.forall_mem_cons] at legal
      have first := run_letter legal.1 frame outer
      rw [run_cons, run_nil] at first
      rw [run_cons, first, Frame.addLetter_of_isOpen fresh, run_letters legal.2,
        List.singleton_append]

theorem step_escaped (delimiter : Char) (body : List Char) (character : Char) (frame : Frame)
    (outer : List Frame) :
    step ⟨.quoted delimiter true body, frame, outer⟩ character =
      ⟨.quoted delimiter false (body ++ [character]), frame, outer⟩ := rfl

theorem step_backslash {delimiter : Char} (closes : Text.IsDelimiter delimiter) (body : List Char)
    (frame : Frame) (outer : List Frame) :
    step ⟨.quoted delimiter false body, frame, outer⟩ '\\' =
      ⟨.quoted delimiter true (body ++ ['\\']), frame, outer⟩ := by
  cases closes <;> rfl

theorem step_quoted (delimiter : Char) {character : Char} (no_backslash : character ≠ '\\')
    (no_delimiter : character ≠ delimiter) (body : List Char) (frame : Frame)
    (outer : List Frame) :
    step ⟨.quoted delimiter false body, frame, outer⟩ character =
      ⟨.quoted delimiter false (body ++ [character]), frame, outer⟩ := by
  simp [step, no_backslash, no_delimiter]

theorem run_escapeCharacter {delimiter : Char} (closes : Text.IsDelimiter delimiter)
    (character : Char) (body : List Char) (frame : Frame) (outer : List Frame) :
    run ⟨.quoted delimiter false body, frame, outer⟩ (Text.escapeCharacter delimiter character) =
      ⟨.quoted delimiter false (body ++ Text.escapeCharacter delimiter character), frame,
        outer⟩ := by
  have escapes := Text.escapes_escapeCharacter delimiter character
  generalize Text.escapeCharacter delimiter character = escaped at escapes ⊢
  cases escapes with
  | letter letter =>
      simp only [run_cons, run_nil, step_backslash closes, step_escaped, List.append_assoc,
        List.singleton_append]
  | sign =>
      simp only [run_cons, run_nil, step_backslash closes, step_escaped, List.append_assoc,
        List.singleton_append]
  | number =>
      have digit {value : Nat} (small : value < 16) (body : List Char) :=
        step_quoted delimiter (Text.upperHexDigit_plain small).2.1
          (by cases closes with
            | quote => exact (Text.upperHexDigit_plain small).2.2.1
            | bracket => exact (Text.upperHexDigit_plain small).2.2.2) body frame outer
      simp only [Text.fourHexDigits, run_cons, run_nil, step_backslash closes, step_escaped]
      rw [digit (by omega), digit (by omega), digit (by omega), digit (by omega)]
      simp only [List.append_assoc, List.cons_append, List.nil_append]
  | plain _ no_backslash no_delimiter =>
      simp only [run_cons, run_nil, step_quoted delimiter no_backslash no_delimiter]

theorem run_escapeCharacters {delimiter : Char} (closes : Text.IsDelimiter delimiter)
    (text body : List Char) (frame : Frame) (outer : List Frame) :
    run ⟨.quoted delimiter false body, frame, outer⟩ (Text.escapeCharacters delimiter text) =
      ⟨.quoted delimiter false (body ++ Text.escapeCharacters delimiter text), frame, outer⟩ := by
  induction text generalizing body with
  | nil => simp [Text.escapeCharacters]
  | cons character text induction =>
      rw [Text.escapeCharacters, List.flatMap_cons, run_append, run_escapeCharacter closes,
        ← List.append_assoc]
      exact induction _

/-- A quoted text is read as the text that was escaped. -/
theorem run_quoted {delimiter : Char} (closes : Text.IsDelimiter delimiter) (text : List Char)
    (frame : Frame) (outer : List Frame) :
    run ⟨.quoted delimiter false [], frame, outer⟩
        (Text.escapeCharacters delimiter text ++ [delimiter]) =
      { frame := frame.add (if delimiter = '\'' then .literal text else .charSet text), outer } := by
  rw [run_append, run_escapeCharacters closes, List.nil_append]
  simp [step, quotedMark, Text.unescape_escapeCharacters closes]

end Recovery

end Listing
end Rulebook
