import Rulebook.Proofs.Catalogue.Links
import Rulebook.Proofs.Catalogue.Placement
import Rulebook.Proofs.Document.Gathering

/-!
# What a catalogue is written from

A catalogue is written from the declarations of the rules that have an item, and from what the tips of
their bodies show of other rules.  Sets, documentation and layout add no declarations, no identifiers
and no users.
-/

namespace Rulebook

/-- The rules that have an item. -/
def Grammar.itemRules (grammar : Grammar) (settings : Settings) : List Rule :=
  grammar.keptParserRules settings ++ grammar.keptLexerRules settings

theorem Grammar.mem_allRendered_of_mem_itemRules {grammar : Grammar} {settings : Settings}
    {rule : Rule} (member : rule ∈ grammar.itemRules settings) :
    rule ∈ grammar.allRendered settings := by
  rcases List.mem_append.mp member with parser | lexer
  · exact mem_allRendered.mpr ⟨.parser, (List.mem_filter.mp parser).1⟩
  · exact mem_allRendered.mpr ⟨.lexer, (List.mem_filter.mp lexer).1⟩

namespace Step.Gathers

variable {Found : Type} {gather : Step → List Found}

theorem of_isDecoration (gathers : Gathers gather) {step : Step}
    (decoration : step.isDecoration = true) : gather step = [] := by
  unfold isDecoration at decoration
  split at decoration
  · rw [gathers.element _ (by decide) (by decide), List.flatMap_singleton, gathers.cdata]
  · rw [gathers.element _ (by decide) (by decide), List.flatMap_singleton, gathers.cdata]
  · rw [gathers.element _ (by decide) (by decide), List.flatMap_nil]
  · rw [gathers.element _ (by decide) (by decide), List.flatMap_singleton, gathers.cdata]
  · rw [gathers.element _ (by decide) (by decide), List.flatMap_singleton, gathers.text]
  · rw [gathers.element _ (by decide) (by decide), List.flatMap_singleton, gathers.text]
  · simp at decoration

/-- Decoration gives nothing. -/
theorem links (gathers : Gathers gather) (steps : List Step) :
    (Step.links steps).flatMap gather = steps.flatMap gather := by
  induction steps with
  | nil => rfl
  | cons step steps induction =>
      rw [Step.links, List.filter_cons, List.flatMap_cons, ← induction]
      by_cases decoration : step.isDecoration = true
      · simp [decoration, gathers.of_isDecoration decoration, Step.links]
      · simp [decoration, Step.links]

end Step.Gathers

namespace Step

theorem tidy_of_isDecoration {step : Step} (decoration : step.isDecoration = true) (tag : String) :
    step.Tidy tag := by
  unfold isDecoration at decoration
  split at decoration
  · exact .element (by decide) (List.forall_mem_singleton.mpr (.cdata _ _))
  · exact .element (by decide) (List.forall_mem_singleton.mpr (.cdata _ _))
  · exact .element (by decide) nofun
  · exact .element (by decide) (List.forall_mem_singleton.mpr (.cdata _ _))
  · exact .element (by decide) (List.forall_mem_singleton.mpr (.text _ _))
  · exact .element (by decide) (List.forall_mem_singleton.mpr (.text _ _))
  · simp at decoration

/-- Steps are tidy if their links are. -/
theorem tidy_of_links {tag : String} {steps : List Step} (each : ∀ step ∈ links steps, step.Tidy tag) :
    ∀ step ∈ steps, step.Tidy tag := by
  intro step member
  by_cases decoration : step.isDecoration = true
  · exact tidy_of_isDecoration decoration tag
  · exact each step (List.mem_filter.mpr ⟨member, by simpa using decoration⟩)

end Step

namespace Catalogue

section

variable {grammar : Grammar} {settings : Settings}

/-- What counts of a rule: its declaration and what its tips show of other rules. -/
def ruleSteps (grammar : Grammar) (settings : Settings) (rule : Rule) : List Step :=
  Piece.declaration rule.name :: bodyLinks grammar settings rule.name rule.body.tips

theorem tidy_token (grammar : Grammar) (settings : Settings) (name tag : String) :
    (Piece.token grammar settings name).Tidy tag := by
  unfold Piece.token
  split
  · exact .element (by decide) (List.forall_mem_singleton.mpr (.cdata _ _))
  · split
    · exact .element (by decide) (List.forall_mem_singleton.mpr (.setAttribute (by decide) _ _))
    · exact Step.tidy_of_isDecoration rfl tag

theorem tidy_bodyLinks (grammar : Grammar) (settings : Settings) (user : String)
    (tips : List NodeKind) (tag : String) :
    ∀ step ∈ bodyLinks grammar settings user tips, step.Tidy tag := by
  intro step member
  obtain ⟨tip, -, inside⟩ := List.mem_flatMap.mp member
  have shown : step ∈ tipSteps grammar settings user tip := (List.mem_filter.mp inside).1
  cases tip with
  | terminal terminal =>
      cases terminal with
      | literal value => simp [tipSteps] at shown
      | token name =>
          rw [tipSteps] at shown
          split at shown
          · simp at shown
          · rcases List.mem_cons.mp shown with rfl | other
            · exact .reference tag name user
            · rw [List.mem_singleton.mp other]
              exact tidy_token grammar settings name tag
  | ruleRef name =>
      rw [tipSteps] at shown
      rcases List.mem_cons.mp shown with rfl | other
      · exact .element (by decide) (List.forall_mem_singleton.mpr (.setAttribute (by decide) _ _))
      · rw [List.mem_singleton.mp other]
        exact .reference tag name user
  | _ => simp [tipSteps] at shown

/-- Is a piece the entry of a rule, whose description shows of other rules what the tips of the body
show of them? -/
def IsLinkedEntry (grammar : Grammar) (settings : Settings) (rule : Rule) (piece : Piece) : Prop :=
  ∃ body : List Step, piece.steps = entrySteps settings rule.name body ∧
    Step.links body = bodyLinks grammar settings rule.name rule.body.tips

/-- A rule whose operators have their operands is rendered to its entry. -/
theorem rendersTo_linkedEntry {rule : Rule} (complete : rule.body.HasOperands) :
    RendersTo (renderer grammar settings) (fun state => state.inlining.Covers grammar settings)
      (IsLinkedEntry grammar settings) rule := by
  intro start earlier covers
  let entered : State :=
    { start with current? := some ⟨rule.name, rule.kind, settings.breaksOf? rule.name⟩ }
  have follows : Follows grammar settings rule.name entered earlier := ⟨rfl, covers⟩
  obtain ⟨piece, reached, body, shows, after⟩ :=
    (matches_collector grammar settings rule.name).exists_render complete Position.body follows
  let entry := (((renderer grammar settings).rule [piece] rule.name rule.line).run reached).1
  have steps : entry.steps = entrySteps settings rule.name ([piece].flatMap Piece.steps) := rfl
  refine ⟨entry, reached, Rule.run_render_of_ok body, ⟨_, steps, ?_⟩, after.covers⟩
  rw [List.flatMap_singleton]
  exact shows

/-! ### What sets consist of -/

/-- Apart from decoration an item is a declaration and a description. -/
theorem links_entrySteps (settings : Settings) (rule : Rule) (body : List Step) :
    Step.links ((if rule.isFragment then [Step.element "annotation" [.text "helper"]] else []) ++
        entrySteps settings rule.name body) =
      [Piece.declaration rule.name, Piece.description body] := by
  unfold entrySteps Piece.startMark
  split <;> split <;> rfl

/-- Apart from decoration a description is its body. -/
theorem links_description (body : List Step) :
    Step.links ([.whitespace 2, .symbol ":", .whitespace 1] ++ body ++
      [.lineEnd, .whitespace 2, .element "other" [.text ";"]]) = Step.links body := by
  have closing : Step.links [.lineEnd, .whitespace 2, .element "other" [.text ";"]] = [] := rfl
  rw [Step.links_append, Step.links_append, closing, List.append_nil]
  rfl

/-- An entry with its documentation gives what counts of its rule. -/
theorem flatMap_itemSteps {Found : Type} {gather : Step → List Found} (gathers : Step.Gathers gather)
    (docs : Docs) (heading? : Option String) {rule : Rule} {piece : Piece}
    (linked : IsLinkedEntry grammar settings rule piece) :
    (itemSteps docs heading? rule piece.steps).flatMap gather =
      (ruleSteps grammar settings rule).flatMap gather := by
  obtain ⟨body, steps, links⟩ := linked
  have description : gather (Piece.description body) =
      (bodyLinks grammar settings rule.name rule.body.tips).flatMap gather := by
    rw [Piece.description, gathers.element _ (by decide) (by decide), ← gathers.links,
      links_description, links]
  rw [itemSteps, List.flatMap_append, ← gathers.links, Step.links_documentation, List.flatMap_nil,
    List.nil_append, List.flatMap_singleton, gathers.element _ (by decide) (by decide), steps,
    ← gathers.links, links_entrySteps, List.flatMap_cons, List.flatMap_singleton, description,
    ruleSteps, List.flatMap_cons]

theorem tidy_itemSteps (docs : Docs) (heading? : Option String) {rule : Rule} {piece : Piece}
    (linked : IsLinkedEntry grammar settings rule piece) (tag : String) :
    ∀ step ∈ itemSteps docs heading? rule piece.steps, step.Tidy tag := by
  obtain ⟨body, steps, links⟩ := linked
  have description : (Piece.description body).Tidy "item" := by
    refine .element (by decide) (Step.tidy_of_links ?_)
    rw [links_description, links]
    exact tidy_bodyLinks grammar settings rule.name rule.body.tips "description"
  have item : ∀ step ∈ (if rule.isFragment then [Step.element "annotation" [.text "helper"]]
      else []) ++ entrySteps settings rule.name body, step.Tidy "item" := by
    apply Step.tidy_of_links
    rw [links_entrySteps]
    refine List.forall_mem_cons.mpr ⟨.declaration "item" rule.name, ?_⟩
    exact List.forall_mem_singleton.mpr description
  refine List.forall_mem_append.mpr ⟨Step.tidy_of_links ?_, ?_⟩
  · rw [Step.links_documentation]
    exact nofun
  · rw [steps]
    exact List.forall_mem_singleton.mpr (.element (by decide) item)

/-- A section gives what its entries give. -/
theorem flatMap_inSection {Found : Type} {gather : Step → List Found} (gathers : Step.Gathers gather)
    (docs : Docs) (heading? : Option String) (entries : List Step) :
    (inSection docs heading? entries).flatMap gather = entries.flatMap gather := by
  cases heading? with
  | none => rfl
  | some title =>
      rw [inSection, List.flatMap_singleton, gathers.element _ (by decide) (by decide), setHead,
        List.cons_append, List.flatMap_cons, gathers.setAttribute, List.nil_append,
        List.flatMap_append, ← gathers.links (Step.documentation _), Step.links_documentation]
      rfl

theorem tidy_inSection (docs : Docs) (heading? : Option String) {entries : List Step} {tag : String}
    (each : ∀ tag, ∀ step ∈ entries, step.Tidy tag) :
    ∀ step ∈ inSection docs heading? entries, step.Tidy tag := by
  cases heading? with
  | none => exact each tag
  | some title =>
      have head : ∀ step ∈ Step.documentation (docs title), step.Tidy "set" := by
        apply Step.tidy_of_links
        rw [Step.links_documentation]
        exact nofun
      refine List.forall_mem_singleton.mpr (.element (by decide) (List.forall_mem_cons.mpr ⟨?_, ?_⟩))
      · exact .setAttribute (by decide) "file-name" title
      · exact List.forall_mem_append.mpr ⟨head, each "set"⟩

/-- Sets give what counts of the rules that have not been absorbed. -/
theorem flatMap_sets {Found : Type} {gather : Step → List Found} (gathers : Step.Gathers gather)
    (docs : Docs) (inlining : Inlining) {rendered : List (Rule × Piece)}
    (each : ∀ entry ∈ rendered, IsLinkedEntry grammar settings entry.1 entry.2)
    (heading? : Option String) (entries : List Step) :
    (sets docs inlining heading? entries rendered).flatMap gather = entries.flatMap gather ++
      ((rendered.map Prod.fst).filter fun rule => !inlining.absorbs rule.name).flatMap fun rule =>
        (ruleSteps grammar settings rule).flatMap gather := by
  induction rendered generalizing heading? entries with
  | nil => simp [sets, flatMap_inSection gathers]
  | cons first later induction =>
      rw [List.forall_mem_cons] at each
      -- The section decides where the entry stands, not what it gives.
      have own (section? : Option String) : (entriesOf docs inlining section? first).flatMap gather =
          ([first.1].filter fun rule => !inlining.absorbs rule.name).flatMap fun rule =>
            (ruleSteps grammar settings rule).flatMap gather := by
        unfold entriesOf
        cases absorbed : inlining.absorbs first.1.name with
        | true => simp [absorbed]
        | false =>
            simp only [Bool.false_eq_true, if_false, absorbed, Bool.not_false,
              List.filter_cons_of_pos, List.filter_nil, List.flatMap_singleton]
            exact flatMap_itemSteps gathers docs section? each.1
      rw [sets, List.map_cons, ← List.singleton_append, List.filter_append, List.flatMap_append]
      split
      · rename_i title _
        rw [List.flatMap_append, flatMap_inSection gathers, induction each.2, own (some title)]
      · rw [induction each.2, List.flatMap_append, List.append_assoc, own heading?]

theorem tidy_sets (docs : Docs) (inlining : Inlining) {rendered : List (Rule × Piece)}
    (each : ∀ entry ∈ rendered, IsLinkedEntry grammar settings entry.1 entry.2)
    (heading? : Option String) {entries : List Step} (before : ∀ tag, ∀ step ∈ entries, step.Tidy tag)
    (tag : String) :
    ∀ step ∈ sets docs inlining heading? entries rendered, step.Tidy tag := by
  induction rendered generalizing heading? entries with
  | nil => exact tidy_inSection docs heading? before
  | cons first later induction =>
      rw [List.forall_mem_cons] at each
      have own (section? : Option String) (tag : String) :
          ∀ step ∈ entriesOf docs inlining section? first, step.Tidy tag := by
        unfold entriesOf
        split
        · exact nofun
        · exact tidy_itemSteps docs section? each.1 tag
      rw [sets]
      split
      · rename_i title _
        exact List.forall_mem_append.mpr
          ⟨tidy_inSection docs heading? before, induction each.2 _ (own (some title))⟩
      · exact induction each.2 heading? fun tag =>
          List.forall_mem_append.mpr ⟨before tag, own heading? tag⟩

/-- Entries without attributes stand in sets without attributes at the top. -/
theorem bare_sets (docs : Docs) (inlining : Inlining) (rendered : List (Rule × Piece))
    (heading? : Option String) {entries : List Step}
    (bare : entries.filterMap Step.attribute? = []) :
    (sets docs inlining heading? entries rendered).filterMap Step.attribute? = [] := by
  have closed (section? : Option String) {entries : List Step}
      (bare : entries.filterMap Step.attribute? = []) :
      (inSection docs section? entries).filterMap Step.attribute? = [] := by
    cases section? with
    | none => exact bare
    | some title => rfl
  have own (section? : Option String) (first : Rule × Piece) :
      (entriesOf docs inlining section? first).filterMap Step.attribute? = [] := by
    unfold entriesOf
    split
    · rfl
    · rw [itemSteps]
      cases docs (ruleKey section? first.1.name) <;> rfl
  induction rendered generalizing heading? entries with
  | nil => exact closed heading? bare
  | cons first later induction =>
      rw [sets]
      split
      · rename_i title _
        rw [List.filterMap_append, closed heading? bare, induction (some title) (own _ first)]
        rfl
      · refine induction heading? ?_
        rw [List.filterMap_append, bare, own heading? first]
        rfl

theorem bare_catalogueSteps (docs : Docs) (parserInlining lexerInlining : Inlining)
    (parserPart lexerPart : List (Rule × Piece)) :
    (catalogueSteps docs parserInlining lexerInlining parserPart lexerPart).filterMap
      Step.attribute? = [] := by
  rw [catalogueSteps, List.filterMap_cons_none rfl, List.filterMap_append,
    bare_sets docs parserInlining parserPart none List.filterMap_nil,
    bare_sets docs lexerInlining lexerPart none List.filterMap_nil]
  rfl

end

/-! ### The whole catalogue -/

/-- Are these the rendered rules of both namespaces, and the states in which they leave the
renderer? -/
structure IsRendered (grammar : Grammar) (settings : Settings)
    (parserPart lexerPart : List (Rule × Piece)) (afterParser afterLexer : State) : Prop where
  /-- The parser rules are rendered first. -/
  parser_run : (renderRules (renderer grammar settings)
    (grammar.renderedRules settings .parser)).run {} = .ok (parserPart, afterParser)
  /-- The lexer rules are rendered after them. -/
  lexer_run : (renderRules (renderer grammar settings)
    (grammar.renderedRules settings .lexer)).run afterParser = .ok (lexerPart, afterLexer)
  /-- The parser rules are those to be rendered. -/
  parser_rules : parserPart.map Prod.fst = grammar.renderedRules settings .parser
  /-- The lexer rules are those to be rendered. -/
  lexer_rules : lexerPart.map Prod.fst = grammar.renderedRules settings .lexer
  /-- Every rule is rendered to its entry. -/
  linked : ∀ entry ∈ parserPart ++ lexerPart, IsLinkedEntry grammar settings entry.1 entry.2
  /-- What has been absorbed after the parser rules. -/
  parser_absorbs : ∀ name, afterParser.inlining.absorbs name = true ↔
    grammar.Absorbs settings (grammar.renderedRules settings .parser) name
  /-- What has been absorbed in the end. -/
  lexer_absorbs : ∀ name, afterLexer.inlining.absorbs name = true ↔
    grammar.Absorbs settings (grammar.allRendered settings) name

/-- The rules of a valid grammar are rendered. -/
theorem exists_isRendered {grammar : Grammar} (valid : grammar.validate = .ok ())
    (settings : Settings) : ∃ parserPart lexerPart afterParser afterLexer,
      IsRendered grammar settings parserPart lexerPart afterParser afterLexer := by
  have nothing : ({} : State).inlining.Covers grammar settings [] := Inlining.covers_nil
  obtain ⟨parserPart, lexerPart, afterParser, afterLexer, parser_run, lexer_run, parser_rules,
    lexer_rules, linked, between, after⟩ :=
      grammar.exists_renderRules valid settings rendersTo_linkedEntry nothing
  refine ⟨parserPart, lexerPart, afterParser, afterLexer, parser_run, lexer_run, parser_rules,
    lexer_rules, linked, between.absorbs_iff fun rule => ?_, after.absorbs_iff fun rule => ?_⟩
  · exact Grammar.hasOperands_of_mem_renderedRules valid
  · exact Grammar.hasOperands_of_mem_allRendered valid

theorem map_snd_placementsFrom (opened? : Rule → Option String) (shows : Rule → Bool)
    (heading? : Option String) (rules : List Rule) :
    (Section.placementsFrom opened? shows heading? rules).map Prod.snd =
      (rules.filter shows).map fun rule => some rule.name := by
  induction rules generalizing heading? with
  | nil => rfl
  | cons rule rules induction =>
      rw [Section.placementsFrom, List.filter_cons]
      split
      · rw [List.map_cons, List.map_cons, induction]
      · exact induction _

namespace IsRendered

variable {grammar : Grammar} {settings : Settings} {parserPart lexerPart : List (Rule × Piece)}
  {afterParser afterLexer : State}

/-- The rules that have an item are those that have not been absorbed when they are written. -/
theorem itemRules_eq
    (rendered : IsRendered grammar settings parserPart lexerPart afterParser afterLexer) :
    grammar.itemRules settings =
      ((parserPart.map Prod.fst).filter fun rule => !afterParser.inlining.absorbs rule.name) ++
        (lexerPart.map Prod.fst).filter fun rule => !afterLexer.inlining.absorbs rule.name := by
  rw [Inlining.filter_not_absorbs rendered.parser_absorbs,
    Inlining.filter_not_absorbs rendered.lexer_absorbs, rendered.parser_rules, rendered.lexer_rules]
  rfl

/-- Names are declared in one go. -/
theorem tidy (rendered : IsRendered grammar settings parserPart lexerPart afterParser afterLexer)
    (docs : Docs) : ∀ step ∈ catalogueSteps docs afterParser.inlining afterLexer.inlining parserPart
      lexerPart, step.Tidy "tokens" := by
  have empty : ∀ tag, ∀ step ∈ ([] : List Step), step.Tidy tag := fun _ _ inside => nomatch inside
  obtain ⟨parser_linked, lexer_linked⟩ := List.forall_mem_append.mp rendered.linked
  refine List.forall_mem_append.mpr ⟨inSection_notationKey docs ▸ tidy_inSection docs _ empty, ?_⟩
  exact List.forall_mem_append.mpr ⟨tidy_sets docs _ parser_linked none empty "tokens",
    tidy_sets docs _ lexer_linked none empty "tokens"⟩

/-- A catalogue gives what counts of the rules that have an item. -/
theorem flatMap_catalogueSteps
    (rendered : IsRendered grammar settings parserPart lexerPart afterParser afterLexer)
    (docs : Docs) {Found : Type} {gather : Step → List Found} (gathers : Step.Gathers gather) :
    (catalogueSteps docs afterParser.inlining afterLexer.inlining parserPart lexerPart).flatMap
        gather =
      (grammar.itemRules settings).flatMap fun rule =>
        (ruleSteps grammar settings rule).flatMap gather := by
  have note := flatMap_inSection gathers docs (some notationKey) []
  rw [inSection_notationKey, List.flatMap_singleton] at note
  obtain ⟨parser_linked, lexer_linked⟩ := List.forall_mem_append.mp rendered.linked
  rw [rendered.itemRules_eq, catalogueSteps, List.flatMap_cons, note, List.flatMap_append,
    flatMap_sets gathers docs _ parser_linked, flatMap_sets gathers docs _ lexer_linked,
    List.flatMap_append]
  rfl

/-- The items of a catalogue are those of the rules that have one. -/
theorem items (rendered : IsRendered grammar settings parserPart lexerPart afterParser afterLexer)
    (valid : grammar.validate = .ok ()) (docs : Docs) :
    ((Step.markupAll (catalogueSteps docs afterParser.inlining afterLexer.inlining parserPart
        lexerPart)).flatMap Markup.placed).map Prod.snd =
      (grammar.itemRules settings).map fun rule => some rule.name := by
  obtain ⟨-, placed⟩ := placed_catalogueSteps docs afterParser.inlining afterLexer.inlining
    (isEntry_of_renderRules valid rendered.parser_run).2
    (isEntry_of_renderRules valid rendered.lexer_run).2
  rw [placed, List.map_append, map_snd_placementsFrom, map_snd_placementsFrom,
    rendered.itemRules_eq, List.map_append]

end IsRendered
end Catalogue
end Rulebook
