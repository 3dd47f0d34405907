import Rulebook.Catalogue.Assembly
import Rulebook.Proofs.Document.Cursor

/-!
# Sets written at once

Rules are written one after the other into the set that was opened last.  The document is the same as
if every set were written at once, with the entries of all its rules.
-/

namespace Rulebook
namespace Catalogue

/-- What is written of a rule: its documentation and its item. -/
def itemSteps (docs : Docs) (heading? : Option String) (rule : Rule) (steps : List Step) :
    List Step :=
  let helper : List Step :=
    if rule.isFragment then [.element "annotation" [.text "helper"]] else []
  Step.documentation (docs (ruleKey heading? rule.name)) ++ [.element "item" (helper ++ steps)]

/-- What is written of a rendered rule, which is nothing if the rule has been absorbed. -/
def entriesOf (docs : Docs) (inlining : Inlining) (heading? : Option String)
    (rendered : Rule × Piece) : List Step :=
  if inlining.absorbs rendered.1.name then []
  else itemSteps docs heading? rendered.1 rendered.2.steps

/-- The entries of a section inside its set, or entries outside any section. -/
def inSection (docs : Docs) : (heading? : Option String) → (entries : List Step) → List Step
  | none, entries => entries
  | some title, entries => [.element "set" (setHead docs title ++ entries)]

/-- The set about the notation is a section without entries. -/
theorem inSection_notationKey (docs : Docs) :
    inSection docs (some notationKey) [] = [notationSet docs] := by
  simp [inSection, notationSet]

/-- The steps that write rendered rules, set by set.  `entries` are those of the section that is open
already. -/
def sets (docs : Docs) (inlining : Inlining) :
    (heading? : Option String) → (entries : List Step) → List (Rule × Piece) → List Step
  | heading?, entries, [] => inSection docs heading? entries
  | heading?, entries, rendered :: later =>
      match rendered.2.heading? with
      | some title =>
          inSection docs heading? entries ++
            sets docs inlining (some title) (entriesOf docs inlining (some title) rendered) later
      | none =>
          sets docs inlining heading? (entries ++ entriesOf docs inlining heading? rendered) later

namespace Emission

/-- What has been written into a builder: some entries of a section that is still open. -/
def open? (docs : Docs) (builder : Builder) :
    (heading? : Option String) → (entries : List Step) → Emission
  | none, entries => { builder := Builder.performAll entries builder }
  | some title, entries =>
      { builder := Builder.perform (.within builder.document.size (setHead docs title ++ entries))
          (builder.append "set").2
        context := builder.document.size
        heading? := some title }

variable {docs : Docs} {builder : Builder}

theorem builder_open (heading? : Option String) (entries : List Step) :
    (open? docs builder heading? entries).builder =
      Builder.performAll (inSection docs heading? entries) builder := by
  cases heading? <;> rfl

/-- A section that is opened closes the section before it. -/
theorem openSection_open (title : String) (heading? : Option String) (entries : List Step) :
    (open? docs builder heading? entries).openSection docs title =
      open? docs (Builder.performAll (inSection docs heading? entries) builder) (some title) [] := by
  rw [← builder_open, openSection, open?, List.append_nil]
  rfl

/-- An entry that is written comes to those of the open section. -/
theorem writeEntry_open (at_root : builder.current = Document.root) (rule : Rule) (steps : List Step)
    (heading? : Option String) (entries : List Step) :
    (open? docs builder heading? entries).writeEntry docs rule steps =
      open? docs builder heading? (entries ++ itemSteps docs heading? rule steps) := by
  cases heading? with
  | none =>
      have current := Builder.current_performAll entries builder
      rw [at_root] at current
      simp only [open?, writeEntry, itemSteps]
      rw [← current, Builder.perform_within_current]
      simp only [Builder.performAll_append]
  | some title =>
      simp only [open?, writeEntry, itemSteps]
      rw [Builder.perform_within_append, List.append_assoc]

theorem emit_open (at_root : builder.current = Document.root) (inlining : Inlining)
    (rendered : Rule × Piece) (heading? : Option String) (entries : List Step) :
    (open? docs builder heading? entries).emit docs inlining rendered =
      match rendered.2.heading? with
      | some title =>
          open? docs (Builder.performAll (inSection docs heading? entries) builder) (some title)
            (entriesOf docs inlining (some title) rendered)
      | none =>
          open? docs builder heading? (entries ++ entriesOf docs inlining heading? rendered) := by
  unfold emit entriesOf
  cases rendered.2.heading? with
  | some title =>
      have closed := (Builder.current_performAll (inSection docs heading? entries) builder).trans at_root
      simp only [openSection_open]
      split
      · rfl
      · exact writeEntry_open closed rendered.1 rendered.2.steps (some title) []
  | none =>
      dsimp only
      split
      · rw [List.append_nil]
      · exact writeEntry_open at_root rendered.1 rendered.2.steps heading? entries

/-- Rules that are written one after the other are written set by set. -/
theorem foldl_emit_open (at_root : builder.current = Document.root) (inlining : Inlining)
    (rendered : List (Rule × Piece)) (heading? : Option String) (entries : List Step) :
    (rendered.foldl (emit docs inlining) (open? docs builder heading? entries)).builder =
      Builder.performAll (sets docs inlining heading? entries rendered) builder := by
  induction rendered generalizing builder heading? entries with
  | nil => exact builder_open heading? entries
  | cons first later induction =>
      rw [List.foldl_cons, emit_open at_root, sets]
      split
      · rw [induction ((Builder.current_performAll _ _).trans at_root), Builder.performAll_append]
      · exact induction at_root _ _

end Emission

/-- The rules of a namespace are written set by set. -/
theorem emitRules_eq_performAll {docs : Docs} {builder : Builder}
    (at_root : builder.current = Document.root) (inlining : Inlining)
    (rendered : List (Rule × Piece)) :
    emitRules docs inlining rendered builder =
      Builder.performAll (sets docs inlining none [] rendered) builder :=
  Emission.foldl_emit_open at_root inlining rendered none []

end Catalogue
end Rulebook
