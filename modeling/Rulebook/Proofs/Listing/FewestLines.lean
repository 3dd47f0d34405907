import Rulebook.Proofs.Listing.Layout

/-!
# Fewest lines

A body is resolved by a choice for each of its soft breaks, and a choice is admissible if every blank
leaves room for the text up to the next mark or line end.  The layout is an admissible choice, and no
admissible choice makes fewer lines.
-/

namespace Rulebook
namespace Listing

/-! ### Choices -/

/-- What a character of a body becomes when a soft break in its place does or does not break the line. -/
def replacement (breaks : Bool) (character : Char) : List Char :=
  if character = '\x01' then if breaks then ['\n', ' ', ' ', ' ', ' '] else [' ']
  else if character = '\x02' then ['\n', ' ', ' ', ' ', ' ']
  else [character]

theorem replacement_eq (breaks : Bool) (character : Char) : replacement breaks character =
    if character = softBreak then if breaks then continuationBreak else [' ']
    else if character = hardBreak then continuationBreak
    else [character] :=
  rfl

/-- A body resolved by a choice of the places whose soft breaks break the line. -/
def resolve (breaks : Nat → Bool) : List Char → List Char
  | [] => []
  | character :: rest =>
      replacement (breaks 0) character ++ resolve (fun place => breaks (place + 1)) rest

/-- A choice for the first place of a text and for those behind it. -/
def choose (first : Bool) (later : Nat → Bool) : Nat → Bool
  | 0 => first
  | place + 1 => later place

theorem resolve_choose (first : Bool) (later : Nat → Bool) (character : Char) (rest : List Char) :
    resolve (choose first later) (character :: rest) =
      replacement first character ++ resolve later rest := rfl

/-- The column that is reached from a column by writing a text. -/
def columnAfter (column : Nat) (written : List Char) : Nat :=
  written.foldl (fun reached character => if character = '\n' then 0 else reached + 1) column

/-- Does every soft break that becomes a blank leave room for the text up to the next mark or line end? -/
def IsAdmissible (budget column : Nat) (breaks : Nat → Bool) (text : List Char) : Prop :=
  ∀ place, (inside : place < text.length) → text[place] = '\x01' → breaks place = false →
    columnAfter column (resolve breaks (text.take place) ++
      ' ' :: (text.drop (place + 1)).takeWhile fun character =>
        character ≠ '\x01' ∧ character ≠ '\x02' ∧ character ≠ '\n') ≤ budget

instance (budget column : Nat) (breaks : Nat → Bool) (text : List Char) :
    Decidable (IsAdmissible budget column breaks text) :=
  inferInstanceAs (Decidable (∀ place, (inside : place < text.length) → _))

/-! ### Columns -/

theorem columnAfter_append (column : Nat) (written more : List Char) :
    columnAfter column (written ++ more) = columnAfter (columnAfter column written) more :=
  List.foldl_append

theorem columnAfter_of_not_mem {written : List Char} (whole : '\n' ∉ written) (column : Nat) :
    columnAfter column written = column + written.length := by
  induction written generalizing column with
  | nil => rfl
  | cons character written induction =>
      rw [List.mem_cons, not_or] at whole
      have step : columnAfter column (character :: written) = columnAfter (column + 1) written := by
        rw [columnAfter, List.foldl_cons, if_neg fun same => whole.1 same.symm]
        rfl
      rw [step, induction whole.2, List.length_cons]
      omega

/-- The text up to the next mark or line end stays on its line. -/
theorem columnAfter_blank_segment (column : Nat) (text : List Char) :
    columnAfter column (' ' :: text.takeWhile fun character =>
      character ≠ '\x01' ∧ character ≠ '\x02' ∧ character ≠ '\n') =
        column + 1 + segmentLength text := by
  have kept : (fun character => decide (character ≠ '\x01' ∧ character ≠ '\x02' ∧
      character ≠ '\n')) = fun character => !endsSegment character := by
    funext character
    rw [Bool.eq_iff_iff]
    simp [endsSegment, softBreak, hardBreak, and_assoc]
  rw [kept]
  have whole : '\n' ∉ ' ' :: text.takeWhile fun character => !endsSegment character := by
    intro member
    rcases List.mem_cons.mp member with same | inside
    · exact absurd same (by decide)
    · have ends := List.mem_takeWhile_imp inside
      exact absurd ends (by decide)
  rw [columnAfter_of_not_mem whole, List.length_cons, segmentLength]
  omega

/-- A choice is admissible if its first blank has room and the later ones have from there on. -/
theorem isAdmissible_cons {budget column : Nat} {breaks : Nat → Bool} {character : Char}
    {rest : List Char} :
    IsAdmissible budget column breaks (character :: rest) ↔
      (character = softBreak → breaks 0 = false → column + 1 + segmentLength rest ≤ budget) ∧
        IsAdmissible budget (columnAfter column (replacement (breaks 0) character))
          (fun place => breaks (place + 1)) rest := by
  constructor
  · intro admissible
    refine ⟨fun soft blank => ?_, fun place inside soft blank => ?_⟩
    · rw [← columnAfter_blank_segment]
      exact admissible 0 (Nat.zero_lt_succ _) soft blank
    · rw [← columnAfter_append, ← List.append_assoc]
      exact admissible (place + 1) (Nat.succ_lt_succ inside) soft blank
  · rintro ⟨here, later⟩ place inside soft blank
    cases place with
    | zero =>
        have room := here soft blank
        rw [← columnAfter_blank_segment] at room
        exact room
    | succ place =>
        have room := later place (Nat.lt_of_succ_lt_succ inside) soft blank
        rw [← columnAfter_append, ← List.append_assoc] at room
        exact room

/-! ### The choice of the layout -/

/-- Does the layout break the line at a soft break in front of some text? -/
def wraps (budget column : Nat) (rest : List Char) : Bool :=
  decide (column + 1 + segmentLength rest > budget)

theorem layout_cons (budget column : Nat) (character : Char) (rest : List Char) :
    layout budget column (character :: rest) =
      replacement (wraps budget column rest) character ++
        layout budget (columnAfter column (replacement (wraps budget column rest) character)) rest := by
  have indented : columnAfter column continuationBreak = continuationIndent.length := rfl
  rw [layout, replacement_eq]
  split
  · by_cases overfull : column + 1 + segmentLength rest > budget
    · simp [wraps, overfull, indented]
    · simp [wraps, overfull, columnAfter]
  · split
    · rw [indented]
    · split
      · rename_i line_end
        simp [line_end, columnAfter]
      · rename_i plain
        simp [plain, columnAfter]

/-- The layout is an admissible choice. -/
theorem exists_isAdmissible_layout (budget column : Nat) (text : List Char) :
    ∃ breaks, layout budget column text = resolve breaks text ∧
      IsAdmissible budget column breaks text := by
  induction text generalizing column with
  | nil => exact ⟨fun _ => false, rfl, nofun⟩
  | cons character rest induction =>
      obtain ⟨later, same, admissible⟩ :=
        induction (columnAfter column (replacement (wraps budget column rest) character))
      refine ⟨choose (wraps budget column rest) later, ?_, isAdmissible_cons.mpr ⟨?_, admissible⟩⟩
      · rw [layout_cons, resolve_choose, same]
      · intro _ blank
        simpa [choose, wraps] using blank

/-! ### Comparison with other choices -/

/-- The number of line ends in a text. -/
def lineEnds (written : List Char) : Nat :=
  written.count '\n'

theorem lineEnds_append (written more : List Char) :
    lineEnds (written ++ more) = lineEnds written + lineEnds more :=
  List.count_append

theorem lineEnds_blank : lineEnds (replacement false softBreak) = 0 := rfl

theorem lineEnds_break : lineEnds (replacement true softBreak) = 1 := rfl

theorem columnAfter_blank (column : Nat) :
    columnAfter column (replacement false softBreak) = column + 1 := rfl

theorem columnAfter_break (column : Nat) :
    columnAfter column (replacement true softBreak) = continuationIndent.length := rfl

/-- A character that is no soft break becomes the same whatever is chosen.  It either starts a line or
takes one column. -/
theorem replacement_cases {character : Char} (no_soft : character ≠ softBreak) :
    ∃ piece, (∀ breaks, replacement breaks character = piece) ∧
      ((∀ column other, columnAfter column piece = columnAfter other piece) ∨
        ∀ column, columnAfter column piece = column + 1) := by
  by_cases hard : character = hardBreak
  · refine ⟨continuationBreak, fun breaks => ?_, .inl fun _ _ => rfl⟩
    rw [replacement_eq, if_neg no_soft, if_pos hard]
  · refine ⟨[character], fun breaks => ?_, ?_⟩
    · rw [replacement_eq, if_neg no_soft, if_neg hard]
    · by_cases line_end : character = '\n'
      · exact .inl fun _ _ => by simp [columnAfter, line_end]
      · exact .inr fun _ => by simp [columnAfter, line_end]

/-- From a column that is no further the layout ends no more lines than an admissible choice does, and
from any column at most one line more than a choice that stands behind an indent: where only the layout
breaks the line, it then goes on no further than the choice. -/
theorem lineEnds_layout_le {budget other : Nat} {breaks : Nat → Bool} {text : List Char}
    (admissible : IsAdmissible budget other breaks text) (column : Nat) :
    (column ≤ other → lineEnds (layout budget column text) ≤ lineEnds (resolve breaks text)) ∧
      (continuationIndent.length ≤ other →
        lineEnds (layout budget column text) ≤ lineEnds (resolve breaks text) + 1) := by
  induction text generalizing column other breaks with
  | nil => simp [layout, resolve]
  | cons character rest induction =>
      obtain ⟨room, later⟩ := isAdmissible_cons.mp admissible
      have next := induction later
        (columnAfter column (replacement (wraps budget column rest) character))
      rw [layout_cons, resolve, lineEnds_append, lineEnds_append]
      by_cases soft : character = softBreak
      · subst soft
        have fits := room rfl
        cases wrapped : wraps budget column rest with
        | false =>
            cases chosen : breaks 0 with
            | false =>
                simp only [wrapped, chosen, columnAfter_blank, lineEnds_blank] at next ⊢
                omega
            -- The choice pays for its line now, so the layout may pay for one later.
            | true =>
                simp only [wrapped, chosen, columnAfter_blank, columnAfter_break, lineEnds_blank,
                  lineEnds_break] at next ⊢
                omega
        | true =>
            have overfull : column + 1 + segmentLength rest > budget := of_decide_eq_true wrapped
            cases chosen : breaks 0 with
            -- Only the layout ends its line, which happens once: it is at the indent from here on.
            | false =>
                have ahead : other < column := by
                  have enough := fits chosen
                  omega
                simp only [wrapped, chosen, columnAfter_blank, columnAfter_break, lineEnds_blank,
                  lineEnds_break] at next ⊢
                omega
            | true =>
                simp only [wrapped, chosen, columnAfter_break, lineEnds_break] at next ⊢
                omega
      · obtain ⟨piece, same, starts | takes⟩ := replacement_cases soft
        · simp only [same, starts column other] at next ⊢
          omega
        · simp only [same, takes] at next ⊢
          omega

/-- The layout of a body is an admissible resolution, and no admissible resolution of the body ends fewer
lines. -/
theorem layout_fewest_lines (budget column : Nat) (text : List Char) :
    (∃ breaks, layout budget column text = resolve breaks text ∧
        IsAdmissible budget column breaks text) ∧
      ∀ breaks, IsAdmissible budget column breaks text →
        lineEnds (layout budget column text) ≤ lineEnds (resolve breaks text) :=
  ⟨exists_isAdmissible_layout budget column text, fun _ admissible =>
    (lineEnds_layout_le admissible column).1 (Nat.le_refl column)⟩

/-- A body with two lines of its own, a hard break and three soft breaks. -/
def brokenBody : List Char :=
  "aaaa\x01bbbb\n| cc\x01dd\x02eeee\x01ffff".toList

/-- To break the line at the first soft break is admissible but one line more than is needed. -/
theorem layout_fewest_lines_brokenBody :
    IsAdmissible 12 2 (fun place => place = 4 ∨ place = 22) brokenBody ∧
      layout 12 2 brokenBody = "aaaa bbbb\n| cc dd\n    eeee\n    ffff".toList ∧
        lineEnds (layout 12 2 brokenBody) ≤
          lineEnds (resolve (fun place => place = 4 ∨ place = 22) brokenBody) := by
  have admissible : IsAdmissible 12 2 (fun place => place = 4 ∨ place = 22) brokenBody := by
    decide +kernel
  exact ⟨admissible, by decide +kernel, (layout_fewest_lines 12 2 brokenBody).2 _ admissible⟩

end Listing
end Rulebook
