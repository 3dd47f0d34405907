import Mathlib.Data.List.Forall2
import Rulebook.Proofs.Catalogue.Placement

/-!
# Catalogues side by side

Two catalogues whose rules open the same sections are alike as a whole if their entries are alike one by
one.  What it means to be alike may depend on the section in which an entry stands.
-/

namespace Rulebook
namespace Catalogue

/-- Relations between the entries of two catalogues and between their sets, of which the first carries
over to the second. -/
structure CarriesOver (docs others : Docs) (entries : Option String → List Step → List Step → Prop)
    (rows : List Step → List Step → Prop) : Prop where
  /-- Sections without entries are alike. -/
  nil : ∀ heading?, entries heading? [] []
  /-- Entries of a section are alike if they are one by one. -/
  append : ∀ {heading? first second later rest}, entries heading? first second →
    entries heading? later rest → entries heading? (first ++ later) (second ++ rest)
  /-- Sections are alike if their entries are. -/
  inSection : ∀ {heading? first second}, entries heading? first second →
    rows (Catalogue.inSection docs heading? first) (Catalogue.inSection others heading? second)
  /-- Sets are alike if they are one by one. -/
  join : ∀ {first second later rest}, rows first second → rows later rest →
    rows (first ++ later) (second ++ rest)

/-- Are two rendered rules written alike in every section, and do they open the same section? -/
def WrittenAlike (docs others : Docs) (entries : Option String → List Step → List Step → Prop)
    (inlining : Inlining) (left right : Rule × Piece) : Prop :=
  left.2.heading? = right.2.heading? ∧
    ∀ heading?, entries heading? (entriesOf docs inlining heading? left)
      (entriesOf others inlining heading? right)

namespace CarriesOver

variable {docs others : Docs} {entries : Option String → List Step → List Step → Prop}
  {rows : List Step → List Step → Prop}

/-- Rules that are written alike are written to sets that are alike. -/
theorem sets (carries : CarriesOver docs others entries rows) {inlining : Inlining}
    {rendered parallel : List (Rule × Piece)}
    (each : List.Forall₂ (WrittenAlike docs others entries inlining) rendered parallel)
    (heading? : Option String) {first second : List Step} (opened : entries heading? first second) :
    rows (Catalogue.sets docs inlining heading? first rendered)
      (Catalogue.sets others inlining heading? second parallel) := by
  induction each generalizing heading? first second with
  | nil => exact carries.inSection opened
  | @cons left right _ _ alike _ induction =>
      obtain ⟨same, own⟩ := alike
      rw [Catalogue.sets, Catalogue.sets, same]
      cases right.2.heading? with
      | some title => exact carries.join (carries.inSection opened) (induction (some title) (own _))
      | none => exact induction heading? (carries.append opened (own heading?))

/-- Rules that are written alike are written to catalogues that are alike. -/
theorem catalogueSteps (carries : CarriesOver docs others entries rows)
    {parserInlining lexerInlining : Inlining}
    {parserPart lexerPart parallelParser parallelLexer : List (Rule × Piece)}
    (parser_alike : List.Forall₂ (WrittenAlike docs others entries parserInlining) parserPart
      parallelParser)
    (lexer_alike : List.Forall₂ (WrittenAlike docs others entries lexerInlining) lexerPart
      parallelLexer) :
    rows (Catalogue.catalogueSteps docs parserInlining lexerInlining parserPart lexerPart)
      (Catalogue.catalogueSteps others parserInlining lexerInlining parallelParser parallelLexer) := by
  have noted := carries.inSection (carries.nil (some notationKey))
  rw [inSection_notationKey, inSection_notationKey] at noted
  exact carries.join noted (carries.join (carries.sets parser_alike none (carries.nil none))
    (carries.sets lexer_alike none (carries.nil none)))

end CarriesOver
end Catalogue
end Rulebook
