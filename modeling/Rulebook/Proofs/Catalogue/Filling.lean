import Mathlib.Data.List.Chain
import Mathlib.Tactic.ByContra
import Rulebook.Catalogue.Entry

/-!
# Elements of an alternative on lines

Without settled breaks an alternative fills its lines.  An element stays on the line of the one before
it as long as the widths of the elements on the line, the first apart, keep to the budget.  There is
only one way to fill lines like this.
-/

namespace Rulebook
namespace Catalogue
namespace Piece

/-! ### Lines of elements -/

/-- The elements of a line, with a blank between neighbours. -/
def lineSteps (line : List Piece) : List Step :=
  [Step.whitespace 1].intercalate (line.map steps)

/-- Lines of elements, with the end of a line, an indent and a blank between neighbours. -/
def linesSteps (lines : List (List Piece)) : List Step :=
  [Step.element "crlf" [], .whitespace 3, .whitespace 1].intercalate (lines.map lineSteps)

/-- The widths of elements together. -/
def widthOf : List Piece → Nat
  | [] => 0
  | piece :: later => piece.length + widthOf later

/-- The width of a line as it counts, which is that of its elements without the first. -/
def countedLength (line : List Piece) : Nat :=
  widthOf line.tail

/-- Do lines hold some elements as an alternative fills its lines with them? -/
structure IsFilling (budget : Nat) (pieces : List Piece) (lines : List (List Piece)) : Prop where
  /-- Every element stands on one line, in order. -/
  flatten_eq : lines.flatten = pieces
  /-- No line is empty. -/
  ne_nil : ∀ line ∈ lines, line ≠ []
  /-- Every line keeps to the budget. -/
  fits : ∀ line ∈ lines, countedLength line ≤ budget
  /-- A line only ends before an element that would exceed the budget. -/
  full : lines.IsChain fun line next =>
    ∀ first ∈ next.head?, budget < countedLength line + first.length

theorem widthOf_append (pieces later : List Piece) :
    widthOf (pieces ++ later) = widthOf pieces + widthOf later := by
  induction pieces with
  | nil => exact (Nat.zero_add _).symm
  | cons piece pieces induction => rw [List.cons_append, widthOf, widthOf, induction, Nat.add_assoc]

theorem intercalate_cons (separator : List Step) (row : List Step) (rows : List (List Step)) :
    separator.intercalate (row :: rows) = row ++ rows.flatMap fun next => separator ++ next := by
  induction rows generalizing row with
  | nil => rw [List.intercalate_singleton, List.flatMap_nil, List.append_nil]
  | cons next rows induction =>
      rw [List.intercalate_cons_cons, induction, List.flatMap_cons]
      simp only [List.append_assoc]

theorem lineSteps_cons (piece : Piece) (line : List Piece) :
    lineSteps (piece :: line) = piece.steps ++ spaced line := by
  have behind : (line.map steps).flatMap (fun next => [Step.whitespace 1] ++ next) = spaced line := by
    induction line with
    | nil => rfl
    | cons next line induction =>
        rw [List.map_cons, List.flatMap_cons, induction, spaced]
        rfl
  rw [lineSteps, List.map_cons, intercalate_cons, behind]

/-- The lines behind a line, each with what starts it. -/
def furtherSteps (lines : List (List Piece)) : List Step :=
  lines.flatMap fun line => [Step.element "crlf" [], .whitespace 3, .whitespace 1] ++ lineSteps line

theorem furtherSteps_cons (line : List Piece) (lines : List (List Piece)) :
    furtherSteps (line :: lines) =
      [Step.element "crlf" [], .whitespace 3, .whitespace 1] ++ lineSteps line ++
        furtherSteps lines := by
  rw [furtherSteps, List.flatMap_cons, furtherSteps]

theorem linesSteps_cons (line : List Piece) (lines : List (List Piece)) :
    linesSteps (line :: lines) = lineSteps line ++ furtherSteps lines := by
  rw [linesSteps, List.map_cons, intercalate_cons, List.flatMap_map, furtherSteps]

namespace IsFilling

variable {budget : Nat} {line pieces : List Piece} {lines : List (List Piece)}

theorem nil (budget : Nat) : IsFilling budget [] [] :=
  ⟨rfl, nofun, nofun, .nil⟩

/-- A line in front of lines that it leaves full. -/
theorem cons (filling : IsFilling budget pieces lines) (nonempty : line ≠ [])
    (room : countedLength line ≤ budget)
    (ended : ∀ first ∈ pieces.head?, budget < countedLength line + first.length) :
    IsFilling budget (line ++ pieces) (line :: lines) where
  flatten_eq := by rw [List.flatten_cons, filling.flatten_eq]
  ne_nil := List.forall_mem_cons.mpr ⟨nonempty, filling.ne_nil⟩
  fits := List.forall_mem_cons.mpr ⟨room, filling.fits⟩
  full := by
    refine filling.full.cons fun next head first begins => ended first ?_
    obtain ⟨later, rfl⟩ : ∃ later, lines = next :: later := by
      cases lines with
      | nil => cases head
      | cons _ later => exact ⟨later, congrArg (· :: later) (Option.some.inj head)⟩
    rw [← filling.flatten_eq, List.flatten_cons, List.head?_append, Option.mem_def.mp begins]
    rfl

end IsFilling

/-! ### Filled lines -/

/-- The elements from a position on complete the line and fill further lines. -/
theorem exists_filled (budget position : Nat) {buffered : Nat} (room : buffered ≤ budget)
    (pieces : List Piece) :
    ∃ rest later lines, pieces = rest ++ later ∧
      filled none budget position buffered pieces = spaced rest ++ furtherSteps lines ∧
        buffered + widthOf rest ≤ budget ∧ IsFilling budget later lines ∧
          ∀ first ∈ later.head?, budget < buffered + widthOf rest + first.length := by
  induction pieces generalizing position buffered with
  | nil => exact ⟨[], [], [], rfl, rfl, room, .nil budget, nofun⟩
  | cons piece pieces induction =>
      have breaks_iff : breaksBefore none budget position (buffered + piece.length) = true ↔
          budget < buffered + piece.length := decide_eq_true_iff
      rw [filled]
      by_cases exceeds : budget < buffered + piece.length
      · -- The piece starts a line, and its own width does not count there.
        obtain ⟨rest, later, lines, rfl, same, fits, filling, ended⟩ :=
          induction (position + 1) (Nat.zero_le budget)
        rw [Nat.zero_add] at fits ended
        have line : IsFilling budget (piece :: rest ++ later) ((piece :: rest) :: lines) :=
          filling.cons (List.cons_ne_nil piece rest) fits ended
        refine ⟨[], piece :: (rest ++ later), _, rfl, ?_, room, line, ?_⟩
        · rw [if_pos (breaks_iff.mpr exceeds), same, furtherSteps_cons, lineSteps_cons, spaced,
            continuation, Step.lineEnd, Step.empty]
          simp only [List.append_assoc, List.cons_append, List.nil_append]
        · intro first begins
          cases begins
          exact exceeds
      · obtain ⟨rest, later, lines, rfl, same, fits, filling, ended⟩ :=
          induction (position + 1) (Nat.le_of_not_lt exceeds)
        have width : buffered + widthOf (piece :: rest) =
            buffered + piece.length + widthOf rest := (Nat.add_assoc ..).symm
        refine ⟨piece :: rest, later, lines, rfl, ?_, width ▸ fits, filling, width ▸ ended⟩
        rw [if_neg (breaks_iff.not.mpr exceeds), same, spaced]
        simp only [List.append_assoc, List.cons_append]

/-- The elements of an alternative without settled breaks fill lines. -/
theorem exists_isFilling (budget : Nat) (pieces : List Piece) :
    ∃ lines, elements none budget pieces = linesSteps lines ∧ IsFilling budget pieces lines := by
  cases pieces with
  | nil => exact ⟨[], rfl, .nil budget⟩
  | cons first pieces =>
      obtain ⟨rest, later, lines, rfl, same, fits, filling, ended⟩ :=
        exists_filled budget 1 (Nat.zero_le budget) pieces
      rw [Nat.zero_add] at fits ended
      refine ⟨(first :: rest) :: lines, ?_,
        filling.cons (List.cons_ne_nil first rest) fits ended⟩
      rw [elements, same, linesSteps_cons, lineSteps_cons, List.append_assoc]

/-! ### The only way to fill lines -/

namespace IsFilling

variable {budget : Nat} {line other pieces : List Piece} {lines others : List (List Piece)}

/-- The lines behind the first one. -/
theorem tail (filling : IsFilling budget pieces (line :: lines)) :
    IsFilling budget lines.flatten lines where
  flatten_eq := rfl
  ne_nil := (List.forall_mem_cons.mp filling.ne_nil).2
  fits := (List.forall_mem_cons.mp filling.fits).2
  full := filling.full.tail

/-- What follows the first line would exceed the budget on it. -/
theorem exceeds {first : Piece} {later : List Piece} (filling : IsFilling budget pieces (line :: lines))
    (begins : lines.flatten = first :: later) : budget < countedLength line + first.length := by
  cases lines with
  | nil => cases begins
  | cons next lines =>
      obtain ⟨head, next, rfl⟩ := List.exists_cons_of_ne_nil (filling.ne_nil next (by simp))
      cases begins
      exact (List.isChain_cons_cons.mp filling.full).1 first rfl

/-- No filling has a longer first line than another. -/
theorem length_le (filling : IsFilling budget pieces (line :: lines))
    (also : IsFilling budget pieces (other :: others)) : other.length ≤ line.length := by
  by_contra longer
  have same : line ++ lines.flatten = other ++ others.flatten :=
    filling.flatten_eq.trans also.flatten_eq.symm
  rcases List.append_eq_append_iff.mp same with ⟨more, rfl, rest⟩ | ⟨more, rfl, -⟩
  · -- The first element behind the line would stand on the longer line within the budget.
    cases more with
    | nil => simp at longer
    | cons first more =>
        obtain ⟨head, line, rfl⟩ := List.exists_cons_of_ne_nil (filling.ne_nil _ List.mem_cons_self)
        have beyond := filling.exceeds rest
        have within := also.fits _ List.mem_cons_self
        have width : countedLength (head :: line ++ first :: more) =
            countedLength (head :: line) + (first.length + widthOf more) :=
          widthOf_append line (first :: more)
        omega
  · rw [List.length_append] at longer
    omega

/-- There is only one way to fill lines with some elements. -/
theorem unique (filling : IsFilling budget pieces lines) (also : IsFilling budget pieces others) :
    lines = others := by
  induction lines generalizing pieces others with
  | nil =>
      cases others with
      | nil => rfl
      | cons other others =>
          have none : other ++ others.flatten = [] :=
            also.flatten_eq.trans filling.flatten_eq.symm
          exact absurd (List.append_eq_nil_iff.mp none).1 (also.ne_nil other List.mem_cons_self)
  | cons line lines induction =>
      cases others with
      | nil =>
          have none : line ++ lines.flatten = [] :=
            filling.flatten_eq.trans also.flatten_eq.symm
          exact absurd (List.append_eq_nil_iff.mp none).1 (filling.ne_nil line List.mem_cons_self)
      | cons other others =>
          have same : line ++ lines.flatten = other ++ others.flatten :=
            filling.flatten_eq.trans also.flatten_eq.symm
          have lengths := Nat.le_antisymm (also.length_le filling) (filling.length_le also)
          obtain ⟨rfl, behind⟩ := List.append_inj same lengths
          rw [induction filling.tail (behind ▸ also.tail)]

end IsFilling
end Piece

/-- Without settled breaks an alternative writes each of its elements once and in order, in parentheses
if it is grouped and has several, and fills its lines with them: on every line the widths of all elements
but the first keep to the budget, and a line only ends before an element that would exceed it. -/
theorem alternative_fills_lines (grammar : Grammar) (settings : Settings) {state : State}
    (unsettled : state.lineBreaks? = none) (grouping : Bool) (pieces : List Piece) :
    ∃ piece lines, ((renderer grammar settings).alternative grouping pieces).run state =
        (piece, state) ∧
      piece.steps = (if grouping = true ∧ 1 < pieces.length
        then .element "symbol" [.cdata "("] :: Piece.linesSteps lines ++
          [.element "symbol" [.cdata ")"]]
        else Piece.linesSteps lines) ∧
        Piece.IsFilling settings.columnBudget pieces lines := by
  obtain ⟨lines, written, filling⟩ := Piece.exists_isFilling settings.columnBudget pieces
  refine ⟨.alternative none settings.columnBudget grouping pieces, lines, ?_, ?_, filling⟩
  · rw [← unsettled]
    rfl
  · rw [Piece.alternative, written, Piece.group]
    cases grouping with
    | false => rfl
    | true => simp [Step.symbol]

/-- A budget of three bytes. -/
def narrowSettings : Settings :=
  { columnBudget := 3 }

/-- The state of the catalogue in a rule without settled breaks. -/
def unsettledState : State :=
  { current? := some ⟨"r", .parser, narrowSettings.breaksOf? "r"⟩ }

/-- Elements of which one is wider than the budget. -/
def wideElements : List Piece :=
  [{ length := 5, steps := [.string "abcde"] }, { length := 2, steps := [.string "fg"] },
    { length := 1, steps := [.string "h"] }, { length := 4, steps := [.string "ijkl"] },
    { length := 1, steps := [.string "m"] }]

/-- The first element of an alternative may be wider than the budget, and so may one that starts a
line. -/
theorem alternative_fills_lines_wideElements :
    unsettledState.lineBreaks? = none ∧
      ∃ piece, ((renderer {} narrowSettings).alternative true wideElements).run unsettledState =
          (piece, unsettledState) ∧
        piece.steps = [.element "symbol" [.cdata "("], .string "abcde", .whitespace 1, .string "fg",
          .whitespace 1, .string "h", .element "crlf" [], .whitespace 3, .whitespace 1,
          .string "ijkl", .whitespace 1, .string "m", .element "symbol" [.cdata ")"]] := by
  have unsettled : unsettledState.lineBreaks? = none := by rfl
  have two_lines : Piece.IsFilling 3 wideElements [wideElements.take 3, wideElements.drop 3] := by
    refine ⟨by rfl, by simp [wideElements], by decide, ?_⟩
    exact .cons_cons (by decide) (.singleton _)
  obtain ⟨piece, lines, run, written, filling⟩ :=
    alternative_fills_lines {} narrowSettings unsettled true wideElements
  refine ⟨unsettled, piece, run, ?_⟩
  rw [written, filling.unique two_lines]
  rfl

end Catalogue
end Rulebook
