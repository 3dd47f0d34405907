import Mathlib.Data.List.Forall2
import Rulebook.Listing.Paragraph
import Rulebook.Proofs.Listing.Recovery

/-!
# Texts that show marks

A piece of the listing shows a row of marks if every resolution of it is read as that row.  Each way
of putting pieces together puts their marks together.
-/

namespace Rulebook
namespace Listing

/-- Is a piece read as a row of marks inside an element? -/
def Reads (text : Piece) (row : List Mark) : Prop :=
  ∀ written, Resolves text written → ∀ frame outer, Frame.IsOpen frame →
    Recovery.run { frame, outer } written =
      { frame := { frame with row := frame.row ++ row }, outer }

/-- Is a piece read as alternatives of a group? -/
def ReadsAlternatives (text : Piece) (rows : List (List Mark)) : Prop :=
  ∀ written, Resolves text written → ∀ alternatives outer, ∃ frame,
    Recovery.run { frame := { alternatives }, outer } written = { frame, outer } ∧
      frame.endElement.endAlternative = { alternatives := alternatives ++ rows }

/-- Is a piece read as the marks of a whole body? -/
def ReadsBody (text : Piece) (row : List Mark) : Prop :=
  ∀ written, Resolves text written → recover written = row

/-! ### Inside an element -/

theorem ne_breaks_of_sign {symbol : Char} (sign : symbol ∈ ['?', '+', '*', '~', '.']) :
    symbol ≠ softBreak ∧ symbol ≠ hardBreak := by
  revert symbol
  decide

theorem Reads.nil : Reads [] [] := by
  intro written resolved frame outer _
  cases resolved
  simp

/-- A sign goes to the present element whatever stands before it. -/
theorem Reads.run_sign_append {symbol : Char} (sign : symbol ∈ ['?', '+', '*', '~', '.'])
    {text written : Piece} {row : List Mark} (reads : Reads text row)
    (resolved : Resolves (symbol :: text) written) (frame : Frame) (outer : List Frame) :
    Recovery.run { frame, outer } written =
      { frame := { frame with row := frame.row ++ .sign symbol :: row }, outer } := by
  obtain ⟨no_soft, no_hard⟩ := ne_breaks_of_sign sign
  obtain ⟨back, rfl, later⟩ := resolved.of_cons no_soft no_hard
  have first := Recovery.run_sign sign frame outer
  rw [Recovery.run_cons, Recovery.run_nil] at first
  rw [Recovery.run_cons, first, reads back later _ _ (frame.isOpen_add_sign symbol)]
  simp [Frame.add]

theorem Reads.sign_append {symbol : Char} (sign : symbol ∈ ['?', '+', '*', '~', '.'])
    {text : Piece} {row : List Mark} (reads : Reads text row) :
    Reads (symbol :: text) (.sign symbol :: row) :=
  fun _ resolved frame outer _ => reads.run_sign_append sign resolved frame outer

/-- What follows a piece with a sign follows its marks. -/
theorem Reads.append_sign_append {symbol : Char} (sign : symbol ∈ ['?', '+', '*', '~', '.'])
    {text after : Piece} {row later : List Mark} (reads : Reads text row)
    (reads_after : Reads after later) :
    Reads (text ++ symbol :: after) (row ++ .sign symbol :: later) := by
  intro written resolved frame outer fresh
  obtain ⟨front, back, rfl, first, second⟩ := resolved.of_append
  rw [Recovery.run_append, reads front first _ _ fresh, reads_after.run_sign_append sign second,
    List.append_assoc]

/-- The sign of a quantifier follows its operand. -/
theorem Reads.quantifier {symbol : Char} (sign : symbol ∈ ['?', '+', '*', '~', '.'])
    {text : Piece} {row : List Mark} (reads : Reads text row) (greedy : Bool) :
    Reads (text ++ Listing.quantifier symbol greedy) (row ++ Mark.quantifier symbol greedy) := by
  cases greedy with
  | true => exact reads.append_sign_append sign .nil
  | false => exact reads.append_sign_append sign (Reads.nil.sign_append (by simp))

/-- The two dots of a range stand between its ends. -/
theorem Reads.range {left right : Piece} {first second : List Mark} (reads_left : Reads left first)
    (reads_right : Reads right second) :
    Reads (left ++ ['.', '.'] ++ right)
      ([Mark.sign '.', Mark.sign '.'].intercalate [first, second]) := by
  have dotted : Reads ('.' :: right) (.sign '.' :: second) := reads_right.sign_append (by simp)
  have whole : Reads (left ++ '.' :: '.' :: right) (first ++ .sign '.' :: .sign '.' :: second) :=
    reads_left.append_sign_append (by simp) dotted
  simpa [List.intercalate] using whole

/-- A name shows itself. -/
theorem Reads.name {name : String} (identifier : Notation.IsIdentifier name) :
    Reads name.toList [.name name.toList] := by
  intro written resolved frame outer fresh
  have legal := identifier.isNameCharacter
  have plain : ∀ letter ∈ name.toList, letter ≠ softBreak ∧ letter ≠ hardBreak :=
    fun letter member => ne_breaks_of_isControl (isClean_of_isIdentifier identifier letter member).2
  rw [resolved.eq_of_plain plain, Recovery.run_name identifier.ne_nil legal fresh]
  rfl

theorem ne_breaks_of_mem_delimited {delimiter : Char} (closes : Text.IsDelimiter delimiter)
    (text : List Char) :
    ∀ character ∈ Text.escapeCharacters delimiter text ++ [delimiter],
      character ≠ softBreak ∧ character ≠ hardBreak :=
  fun _ member => ne_breaks_of_isControl (Text.isControl_of_mem_delimited closes member)

/-- A spelling shows the text between its quotes. -/
theorem Reads.literal (value : String) :
    Reads (Terminal.literal value).written.toList [.literal value.toList] := by
  intro written resolved frame outer _
  rw [Terminal.written, Text.toList_quotedLiteral] at resolved
  obtain ⟨back, rfl, later⟩ := resolved.of_cons (by decide) (by decide)
  rw [later.eq_of_plain (ne_breaks_of_mem_delimited .quote value.toList)]
  exact Recovery.run_quoted .quote value.toList frame outer

/-- A set shows the text between its brackets. -/
theorem Reads.charSet (body : String) :
    Reads (Text.bracketedSet body).toList [.charSet body.toList] := by
  intro written resolved frame outer _
  rw [Text.toList_bracketedSet] at resolved
  obtain ⟨back, rfl, later⟩ := resolved.of_cons (by decide) (by decide)
  rw [later.eq_of_plain (ne_breaks_of_mem_delimited .bracket body.toList)]
  exact Recovery.run_quoted .bracket body.toList frame outer

/-! ### Alternatives -/

theorem Reads.alternative {text : Piece} {row : List Mark} (reads : Reads text row) :
    ReadsAlternatives text [row] := by
  intro written resolved alternatives outer
  refine ⟨_, reads written resolved _ _ (Frame.isOpen_nil alternatives []), ?_⟩
  simp [Frame.endElement, Frame.endAlternative, Mark.inOrder]

/-- A soft break ends the element before it, however it is resolved. -/
theorem run_softBreak {written : Piece} (resolved : Resolves [softBreak] written) (frame : Frame)
    (outer : List Frame) :
    Recovery.run { frame, outer } written = { frame := frame.endElement, outer } := by
  generalize same : [softBreak] = text at resolved
  cases resolved with
  | nil => simp at same
  | blank later =>
      cases (List.cons.inj same).2
      cases later
      exact Recovery.run_blank frame outer
  | line later =>
      cases (List.cons.inj same).2
      cases later
      exact Recovery.run_continuationBreak frame outer
  | forced later => exact absurd (List.cons.inj same).1 (by decide)
  | kept no_soft => exact (no_soft (List.cons.inj same).1.symm).elim

/-- Every separator ends the element before it. -/
theorem run_separated {texts : List Piece} {rows : List (List Mark)}
    (reads : List.Forall₂ Reads texts rows) {position : Nat} {written : Piece}
    (resolved : Resolves (separated none position texts) written) (frame : Frame)
    (outer : List Frame) :
    ∃ reached, Recovery.run { frame, outer } written = { frame := reached, outer } ∧
      reached.endElement =
        { frame.endElement with elements := frame.endElement.elements ++ rows } := by
  induction reads generalizing position written frame with
  | nil =>
      cases resolved
      exact ⟨frame, rfl, by simp⟩
  | @cons text row texts rows head tail induction =>
      have parts : Resolves ([softBreak] ++ (text ++ separated none (position + 1) texts)) written :=
        resolved
      obtain ⟨between, rest, rfl, broken, resolved⟩ := parts.of_append
      obtain ⟨front, back, rfl, before, after⟩ := resolved.of_append
      obtain ⟨reached, run, elements⟩ := induction after
        { frame.endElement with row := frame.endElement.row ++ row }
      refine ⟨reached, ?_, ?_⟩
      · rw [Recovery.run_append, Recovery.run_append, run_softBreak broken,
          head front before frame.endElement outer (Frame.isOpen_nil _ _), run]
      · rw [elements]
        simp [Frame.endElement]

/-- Elements next to each other are one alternative. -/
theorem readsAlternatives_elements {texts : List Piece} {rows : List (List Mark)}
    (reads : List.Forall₂ Reads texts rows) :
    ReadsAlternatives (elements none texts) [Mark.inOrder rows] := by
  cases reads with
  | nil => exact Reads.nil.alternative
  | @cons text row texts rows head tail =>
      intro written resolved alternatives outer
      obtain ⟨front, back, rfl, before, after⟩ := resolved.of_append
      obtain ⟨reached, run, elements⟩ :=
        run_separated tail after { alternatives, row := [] ++ row } outer
      refine ⟨reached, ?_, ?_⟩
      · rw [Recovery.run_append, head front before _ _ (Frame.isOpen_nil _ _)]
        exact run
      · rw [elements]
        simp [Frame.endElement, Frame.endAlternative]

/-- Texts with bars between them show their alternatives. -/
theorem readsAlternatives_join {separator : Piece}
    (plain : ∀ character ∈ separator, character ≠ softBreak ∧ character ≠ hardBreak)
    (ends : ∀ frame outer, Recovery.run { frame, outer } separator =
      { frame := frame.endElement.endAlternative, outer })
    {texts : List Piece} {rows : List (List Mark)}
    (reads : List.Forall₂ (fun text row => ReadsAlternatives text [row]) texts rows)
    (some : rows ≠ []) : ReadsAlternatives (join separator texts) rows := by
  induction reads with
  | nil => exact (some rfl).elim
  | @cons text row texts rows head tail induction =>
      cases tail with
      | nil => exact head
      | @cons next following texts rows second tail =>
          intro written resolved alternatives outer
          rw [join, List.append_assoc] at resolved
          · obtain ⟨front, rest, rfl, before, resolved⟩ := resolved.of_append
            obtain ⟨between, back, rfl, middle, after⟩ := resolved.of_append
            obtain ⟨first, run_first, ended⟩ := head front before alternatives outer
            obtain ⟨reached, run, closed⟩ :=
              induction (by simp) back after (alternatives ++ [row]) outer
            refine ⟨reached, ?_, by rw [closed, List.append_assoc, List.singleton_append]⟩
            rw [Recovery.run_append, Recovery.run_append, run_first, middle.eq_of_plain plain, ends,
              ended, run]
          · simp

/-! ### Groups and bodies -/

/-- Alternatives in parentheses are one mark, unless there is only one. -/
theorem ReadsAlternatives.group {text : Piece} {rows : List (List Mark)}
    (reads : ReadsAlternatives text rows) : Reads ('(' :: text ++ [')']) (Mark.oneOf rows) := by
  intro written resolved frame outer _
  rw [List.cons_append] at resolved
  obtain ⟨rest, rfl, inner⟩ := resolved.of_cons (by decide) (by decide)
  obtain ⟨front, back, rfl, before, after⟩ := inner.of_append
  rw [after.eq_of_plain (by decide)]
  obtain ⟨reached, run, closed⟩ := reads front before [] (frame :: outer)
  have opened := Recovery.run_opening frame outer
  rw [Recovery.run_cons, Recovery.run_nil] at opened
  rw [Recovery.run_cons, opened, Recovery.run_append, run, Recovery.run_closing, Frame.close, closed]
  rfl

theorem ReadsAlternatives.body {text : Piece} {rows : List (List Mark)}
    (reads : ReadsAlternatives text rows) : ReadsBody text (Mark.oneOf rows) := by
  intro written resolved
  obtain ⟨reached, run, closed⟩ := reads written resolved [] []
  rw [recover, show Recovery.run {} written = _ from run, Frame.close, closed]
  rfl

theorem Reads.body {text : Piece} {row : List Mark} (reads : Reads text row) :
    ReadsBody text row :=
  reads.alternative.body

end Listing
end Rulebook
