import Rulebook.Listing.Layout
import Rulebook.Proofs.Text.Visible

/-!
# Resolutions of break marks

Whatever the budget, the layout of a body only decides which soft breaks become blanks.  All that is
said here of a resolution holds for every such choice.
-/

namespace Rulebook
namespace Listing

/-- A body with its break marks replaced: a soft break by a blank or a continued line, a hard break
by a continued line. -/
inductive Resolves : List Char → List Char → Prop where
  /-- Nothing is left. -/
  | nil : Resolves [] []
  /-- The line goes on. -/
  | blank {rest written : List Char} (later : Resolves rest written) :
      Resolves (softBreak :: rest) (' ' :: written)
  /-- The line is broken where it may be. -/
  | line {rest written : List Char} (later : Resolves rest written) :
      Resolves (softBreak :: rest) (continuationBreak ++ written)
  /-- The line is broken where it must be. -/
  | forced {rest written : List Char} (later : Resolves rest written) :
      Resolves (hardBreak :: rest) (continuationBreak ++ written)
  /-- Any other character stays. -/
  | kept {character : Char} {rest written : List Char} (no_soft : character ≠ softBreak)
      (no_hard : character ≠ hardBreak) (later : Resolves rest written) :
      Resolves (character :: rest) (character :: written)

/-- The layout is a resolution. -/
theorem resolves_layout (budget column : Nat) (text : List Char) :
    Resolves text (layout budget column text) := by
  induction text generalizing column with
  | nil => exact .nil
  | cons character rest induction =>
      rw [layout]
      split
      · rename_i soft
        subst soft
        split
        · exact .line (induction _)
        · exact .blank (induction _)
      · rename_i no_soft
        split
        · rename_i hard
          subst hard
          exact .forced (induction _)
        · rename_i no_hard
          split
          · rename_i line_end
            subst line_end
            exact .kept (by decide) (by decide) (induction _)
          · exact .kept no_soft no_hard (induction _)

/-- A text resolves part by part. -/
theorem Resolves.of_append {first second written : List Char}
    (resolved : Resolves (first ++ second) written) :
    ∃ front back, written = front ++ back ∧ Resolves first front ∧ Resolves second back := by
  induction first generalizing written with
  | nil => exact ⟨[], written, rfl, .nil, resolved⟩
  | cons character rest induction =>
      cases resolved with
      | blank later =>
          obtain ⟨front, back, rfl, before, after⟩ := induction later
          exact ⟨' ' :: front, back, rfl, .blank before, after⟩
      | line later =>
          obtain ⟨front, back, rfl, before, after⟩ := induction later
          exact ⟨continuationBreak ++ front, back, (List.append_assoc ..).symm, .line before, after⟩
      | forced later =>
          obtain ⟨front, back, rfl, before, after⟩ := induction later
          exact ⟨continuationBreak ++ front, back, (List.append_assoc ..).symm, .forced before, after⟩
      | kept no_soft no_hard later =>
          obtain ⟨front, back, rfl, before, after⟩ := induction later
          exact ⟨character :: front, back, rfl, .kept no_soft no_hard before, after⟩

theorem Resolves.of_cons {character : Char} {rest written : List Char}
    (no_soft : character ≠ softBreak) (no_hard : character ≠ hardBreak)
    (resolved : Resolves (character :: rest) written) :
    ∃ back, written = character :: back ∧ Resolves rest back := by
  cases resolved with
  | blank => exact (no_soft rfl).elim
  | line => exact (no_soft rfl).elim
  | forced => exact (no_hard rfl).elim
  | kept _ _ later => exact ⟨_, rfl, later⟩

/-- A text without break marks stays as it is. -/
theorem Resolves.eq_of_plain {text written : List Char}
    (plain : ∀ character ∈ text, character ≠ softBreak ∧ character ≠ hardBreak)
    (resolved : Resolves text written) : written = text := by
  induction text generalizing written with
  | nil =>
      cases resolved with
      | nil => rfl
  | cons character rest induction =>
      rw [List.forall_mem_cons] at plain
      obtain ⟨back, rfl, later⟩ := resolved.of_cons plain.1.1 plain.1.2
      rw [induction plain.2 later]

/-- A character of a body as it is laid out on a line without end. -/
def unmark (character : Char) : Char :=
  if character = softBreak then ' ' else if character = hardBreak then '\n' else character

/-- Whatever the budget, the layout changes white space only, and where no line may be broken freely
it keeps the lines. -/
theorem visible_of_resolves {lines : Bool} {text written : List Char}
    (settled : lines = true → softBreak ∉ text) (resolved : Resolves text written) :
    visible lines written = visible lines (text.map unmark) := by
  induction resolved with
  | nil => rfl
  | blank later induction =>
      have same := induction fun counted => (settled counted <| List.mem_cons_of_mem _ ·)
      simpa [unmark] using same
  | line later induction =>
      have same := induction fun counted => (settled counted <| List.mem_cons_of_mem _ ·)
      cases lines with
      | true => exact (settled rfl List.mem_cons_self).elim
      | false => simpa [unmark, continuationBreak, continuationIndent, visible] using same
  | forced later induction =>
      have same := induction fun counted => (settled counted <| List.mem_cons_of_mem _ ·)
      have line_end : unmark hardBreak = '\n' := by decide
      cases lines <;> simpa [line_end, continuationBreak, continuationIndent, visible] using same
  | kept no_soft no_hard later induction =>
      have same := induction fun counted => (settled counted <| List.mem_cons_of_mem _ ·)
      rw [List.map_cons, unmark, if_neg no_soft, if_neg no_hard]
      simp only [visible, List.filter_cons] at same ⊢
      rw [same]

/-- The marks of breaks are control characters. -/
theorem ne_breaks_of_isControl {character : Char}
    (printable : Unicode.isControl character = false) :
    character ≠ softBreak ∧ character ≠ hardBreak := by
  have controls : Unicode.isControl softBreak = true ∧ Unicode.isControl hardBreak = true := by
    decide +kernel
  constructor
  · rintro rfl
    simp [controls] at printable
  · rintro rfl
    simp [controls] at printable

/-- A clean text holds no break marks. -/
theorem map_unmark_of_isClean {text : List Char} (clean : IsClean text) :
    text.map unmark = text := by
  refine (List.map_congr_left fun character member => ?_).trans (List.map_id text)
  obtain ⟨no_soft, no_hard⟩ := ne_breaks_of_isControl (clean character member).2
  rw [unmark, if_neg no_soft, if_neg no_hard, id_eq]

end Listing
end Rulebook
