import Rulebook.Proofs.Catalogue.Contents
import Rulebook.Proofs.Catalogue.Pieces
import Rulebook.Proofs.Document.Reading
import Rulebook.Proofs.Notation.Accepted
import Rulebook.Proofs.Rendering.Simulation

/-!
# Agreement of the listing and the catalogue

Both renderings of a rule are built side by side, so they show the same characters.  Where the line
breaks of a rule are settled, its lines end at the same places in both.
-/

namespace Rulebook

/-- Do two states settle the line breaks of the current rule alike? -/
def SharesBreaks (lineBreaks? : Option (List Nat)) (listing : Listing.State)
    (catalogue : Catalogue.State) : Prop :=
  listing.lineBreaks? = lineBreaks? ∧ catalogue.lineBreaks? = lineBreaks?

/-- Kinds that both renderings show alike: those that the reader builds, with clean texts. -/
def IsShownAlike (kind : NodeKind) : Prop :=
  Notation.IsReadable kind ∧ kind.IsClean

section

variable {grammar : Grammar} {settings : Settings} {lineBreaks? : Option (List Nat)}

/-- A token is shown alike, by its name or by its spelling. -/
theorem stepsMatch_token (clean : grammar.IsClean) {name : String}
    (named : Notation.IsIdentifier name) :
    StepsMatch (SharesBreaks lineBreaks?)
      (fun text piece => Agrees lineBreaks?.isSome text piece.steps)
      (Listing.showTerminal grammar settings (.token name))
      (Catalogue.showTerminal grammar settings (.token name)) := by
  intro listing catalogue related
  cases shown : grammar.inlineSpelling? settings name with
  | none =>
      have keeps := Inlining.run_resolve_of_none shown
      simp only [StateT.run, Listing.showTerminal, Catalogue.showTerminal] at keeps ⊢
      rw [keeps, keeps]
      exact ⟨(Agrees.reference name _).append (.token grammar settings named), related⟩
  | some spelling =>
      have resolved := Inlining.run_resolve_of_some shown
      have spelled : IsClean spelling.toList := by
        have shows := congrArg Prod.fst (resolved {})
        exact clean.spelling shows
      simp only [StateT.run, Listing.showTerminal, Catalogue.showTerminal] at resolved ⊢
      rw [resolved, resolved]
      exact ⟨.string spelling spelled, related⟩

/-- The listing and the catalogue answer every request alike. -/
theorem matches_renderers (settings : Settings) (clean : grammar.IsClean) :
    Renderer.Matches IsShownAlike (SharesBreaks lineBreaks?)
      (fun text piece => Agrees lineBreaks?.isSome text piece.steps)
      (Listing.renderer grammar settings) (Catalogue.renderer grammar settings) where
  optional greedy _ _ _ operand := .pure (operand.quantified rfl (isClean_of_isSign (by simp)) greedy)
  plus greedy _ _ _ operand := .pure (operand.quantified rfl (isClean_of_isSign (by simp)) greedy)
  star greedy _ _ _ operand := .pure (operand.quantified rfl (isClean_of_isSign (by simp)) greedy)
  negation _ _ _ operand := .pure ((Agrees.symbol "~" (isClean_of_isSign (by simp))).append operand)
  range _ _ _ _ _ left right := .pure (left.range right)
  block grouping _ _ _ all := .pure (.choice grouping all)
  set grouping _ _ _ all := .pure (.choice grouping all)
  alternative grouping lefts rights _ all := by
    rintro listing catalogue ⟨rfl, also⟩
    refine ⟨?_, rfl, also⟩
    have written := Agrees.alternative listing.lineBreaks? settings.columnBudget grouping all
    simp only [Listing.renderer, Catalogue.renderer, StateT.run_bind, StateT.run_get, pure_bind,
      StateT.run_pure, also]
    exact written
  sequence _ _ _ all := .pure (.sequence all)
  terminal shown allowed := by
    cases shown with
    | literal value => exact .pure (.literal allowed.2)
    | token name => exact stepsMatch_token clean allowed.1
  ruleRef name allowed := fun _ _ related => ⟨.ruleRef allowed.1 _, related⟩
  charSet body allowed := .pure (.charSet allowed.2)
  placeholder _ := .pure .nil
  predicate _ := .pure .nil

/-- A rule is rendered to a paragraph and to an entry whose bodies agree. -/
theorem exists_render_agrees (clean : grammar.IsClean) {rule : Rule}
    (complete : rule.body.HasOperands) (kinds : rule.body.AllKinds IsShownAlike)
    (listing : Listing.State) (catalogue : Catalogue.State) :
    ∃ (text : Listing.Piece) (reached : Listing.State) (piece entry : Catalogue.Piece)
        (final : Catalogue.State),
      (rule.render (Listing.renderer grammar settings)).run listing =
          .ok (Listing.paragraph settings.textColumnBudget rule.name text, reached) ∧
        (rule.render (Catalogue.renderer grammar settings)).run catalogue = .ok (entry, final) ∧
          entry.steps = Catalogue.entrySteps settings rule.name piece.steps ∧
            piece.IsContent ∧ Agrees (settings.breaksOf? rule.name).isSome text piece.steps := by
  let breaks := settings.breaksOf? rule.name
  let start : Listing.State := { listing with lineBreaks? := breaks }
  let origin : Catalogue.State :=
    { catalogue with current? := some ⟨rule.name, rule.kind, breaks⟩ }
  have entered : (Descent.perform ((Listing.renderer grammar settings).enter rule)).run listing =
      .ok ((), start) := rfl
  have announced :
      (Descent.perform ((Catalogue.renderer grammar settings).enter rule)).run catalogue =
        .ok ((), origin) := rfl
  obtain ⟨⟨text, reached⟩, listed⟩ :=
    rule.body.render_succeeds (Listing.renderer grammar settings) complete Position.body start
  obtain ⟨⟨piece, final⟩, catalogued⟩ :=
    rule.body.render_succeeds (Catalogue.renderer grammar settings) complete Position.body origin
  have outcome := (matches_renderers settings clean).render kinds Position.body start origin ⟨rfl, rfl⟩
  rw [listed, catalogued] at outcome
  cases outcome with
  | ok agrees _ =>
      let entry := (((Catalogue.renderer grammar settings).rule [piece] rule.name rule.line).run final).1
      have steps : entry.steps = Catalogue.entrySteps settings rule.name
          ([piece].flatMap Catalogue.Piece.steps) := rfl
      have contents := (Catalogue.isContent_of_render catalogued).1
      refine ⟨text, reached, piece, entry, final, ?_, ?_, ?_, contents, agrees⟩
      · rw [Rule.render, Descent.run_bind_of_ok entered, Descent.run_bind_of_ok listed]
        simp only [Listing.renderer, List.flatten_singleton]
        rfl
      · rw [Rule.render, Descent.run_bind_of_ok announced, Descent.run_bind_of_ok catalogued]
        rfl
      · rw [steps, List.flatMap_singleton]

end

namespace Catalogue

/-- How a description reads around the contents of a body. -/
def descriptionMarkup (contents : List Markup) : Markup :=
  .element "description" [] <|
    [.element "string" [] [.cdata "&nbsp;&nbsp;"], .element "symbol" [] [.cdata ":"],
     .element "string" [] [.cdata "&nbsp;"]] ++ contents ++
    [.element "crlf" [] [], .element "string" [] [.cdata "&nbsp;&nbsp;"],
     .element "other" [] [.text ";"]]

/-- How the entry of a rule reads around the contents of its body. -/
def entryMarkup (settings : Settings) (name : String) (contents : List Markup) : Markup :=
  .element "item" [] <|
    (if name ∈ settings.startRules then [.element "annotation" [] [.text "start"]] else []) ++
      [.element "declaration" [("name", name)] [], descriptionMarkup contents]

theorem markup_description {body : List Step} (contents : ∀ step ∈ body, step.IsContent) :
    (Piece.description body).markup = [descriptionMarkup (Step.markupAll body)] := by
  have bare : body.filterMap Step.attribute? = [] :=
    List.filterMap_eq_nil_iff.mpr fun step member => (contents step member).bare
  simp only [Piece.description, Step.markup, Step.markupAll_eq, List.filterMap_append, bare,
    List.flatMap_append]
  rfl

/-- The steps of an entry around contents read as the entry. -/
theorem exists_tree_of_entry (settings : Settings) (name : String) {body : List Step}
    (contents : ∀ step ∈ body, step.IsContent) :
    ∃ tree, (Builder.performAll (entrySteps settings name body)
        (Builder.new "item")).document.treeAt? Document.root = some tree ∧
      tree.markup = entryMarkup settings name (Step.markupAll body) := by
  obtain ⟨tree, read, written⟩ :=
    Builder.exists_tree_of_placed (placed_entrySteps settings name contents)
  have starts : settings.isStartRule name = true ↔ name ∈ settings.startRules := by
    rw [Settings.isStartRule, List.contains_iff_mem]
  refine ⟨tree, read, written.trans ?_⟩
  rw [entrySteps, entryMarkup, Step.markupAll_eq, List.flatMap_append, List.flatMap_cons,
    List.flatMap_singleton, markup_description contents, Piece.startMark]
  simp only [starts]
  split <;> rfl

/-- In a grammar that is read from two texts and whose literals and character sets are clean, every
rule that is rendered has a paragraph and an entry.  What the contents of its description show is
what stands in the paragraph between the colon and the semicolon, except for white space, and except
for blanks only if the line breaks of the rule are settled. -/
theorem visible_contents_eq_visible_body {parserText lexerText : String} {grammar : Grammar}
    (read : Grammar.ofTexts parserText lexerText = .ok grammar) (clean : grammar.IsClean)
    (settings : Settings) {kind : RuleKind} {rule : Rule}
    (rendered : rule ∈ grammar.renderedRules settings kind) (listing : Listing.State)
    (catalogue : State) :
    ∃ (body : List Char) (reached : Listing.State) (entry : Piece) (final : State) (tree : Tree)
        (contents : List Markup),
      (rule.render (Listing.renderer grammar settings)).run listing =
          .ok (rule.name.toList ++ ['\n', ':', ' '] ++ body ++ ['\n', ';', '\n', '\n'], reached) ∧
        (rule.render (renderer grammar settings)).run catalogue = .ok (entry, final) ∧
          (Builder.performAll entry.steps (Builder.new "item")).document.treeAt? Document.root =
              some tree ∧
            tree.markup = entryMarkup settings rule.name contents ∧
              visible false (contents.flatMap Markup.shown) = visible false body ∧
                ((settings.breaksOf? rule.name).isSome →
                  visible true (contents.flatMap Markup.shown) = visible true body) := by
  have complete := Grammar.hasOperands_of_mem_renderedRules (Grammar.validate_of_ofTexts read) rendered
  have kinds : rule.body.AllKinds IsShownAlike := by
    refine Grammar.allKinds_of_mem_renderedRules ⟨trivial, trivial⟩ (fun declared present => ?_) rendered
    have readable := (Grammar.readable_of_ofTexts read kind declared present).body.isElement
    exact fun part inside => ⟨readable.allKinds_isReadable part inside,
      clean kind declared present part inside⟩
  obtain ⟨text, reached, piece, entry, final, listed, catalogued, steps, contents, agrees⟩ :=
    exists_render_agrees clean complete kinds listing catalogue
  obtain ⟨tree, built, written⟩ := exists_tree_of_entry settings rule.name contents
  have same : visible (settings.breaksOf? rule.name).isSome
      (Listing.layout settings.textColumnBudget 2 text) =
        visible (settings.breaksOf? rule.name).isSome (Step.shown piece.steps) := by
    rw [Listing.visible_of_resolves agrees.determined (Listing.resolves_layout _ _ _),
      agrees.visible_eq]
  refine ⟨Listing.layout settings.textColumnBudget 2 text, reached, entry, final, tree,
    Step.markupAll piece.steps, listed, catalogued, steps ▸ built, written, ?_, fun settled => ?_⟩
  · have coarse := congrArg (visible false) same
    rw [visible_visible, visible_visible] at coarse
    exact coarse.symm
  · rw [settled] at same
    exact same.symm

/-- A grammar whose rule refers to a token with one spelling, to another token, and to one without a
rule. -/
def mixedTokens : Grammar :=
  { parserRules := [{
      name := "r", kind := .parser, line := 1
      body := Notation.choiceOf [[
        .mk (.star true) [Notation.choiceOf [
          [.mk (.plus true) [Notation.choiceOf [[Node.token "A"]]]],
          [Node.token "B", Node.token "C"]]],
        .mk .negation [Node.leaf (.charSet "x'")]]] }]
    lexerRules := [
      { name := "A", kind := .lexer, line := 1, body := Notation.choiceOf [[Node.literal "a b"]] },
      { name := "B", kind := .lexer, line := 1
        body := Notation.choiceOf [[Node.leaf (.charSet "b")]] }]
    parserSource := ["parser grammar P \x7b r : (A+ | B C)* ~[\"x'\"] ; \x7d"]
    lexerSource := ["lexer grammar L \x7b A : \"a b\" ; B : [\"b\"] ; \x7d"] }

/-- Settings that link a token and settle the line breaks of a rule. -/
def mixedSettings : Settings :=
  { lineBreaks := [("r", [1])], terminalLinks := [("C", "https://c")] }

theorem visible_contents_eq_visible_body_mixedTokens :
    ∃ rule ∈ mixedTokens.renderedRules mixedSettings .parser,
      ∃ (body : List Char) (reached : Listing.State) (entry : Piece) (final : State) (tree : Tree)
          (contents : List Markup),
        (rule.render (Listing.renderer mixedTokens mixedSettings)).run {} =
            .ok (rule.name.toList ++ ['\n', ':', ' '] ++ body ++ ['\n', ';', '\n', '\n'], reached) ∧
          (rule.render (renderer mixedTokens mixedSettings)).run {} = .ok (entry, final) ∧
            (Builder.performAll entry.steps (Builder.new "item")).document.treeAt? Document.root =
                some tree ∧
              tree.markup = entryMarkup mixedSettings rule.name contents ∧
                visible true (contents.flatMap Markup.shown) = visible true body := by
  have read : Grammar.ofTexts "parser grammar P \x7b r : (A+ | B C)* ~[\"x'\"] ; \x7d"
      "lexer grammar L \x7b A : \"a b\" ; B : [\"b\"] ; \x7d" = .ok mixedTokens := by
    decide +kernel
  have clean : mixedTokens.IsClean := by
    intro kind
    cases kind <;> decide +kernel
  have rendered : mixedTokens.parserRules[0] ∈ mixedTokens.renderedRules mixedSettings .parser := by
    decide +kernel
  obtain ⟨body, reached, entry, final, tree, contents, listed, catalogued, built, written, -, lines⟩ :=
    visible_contents_eq_visible_body read clean mixedSettings rendered {} {}
  exact ⟨_, rendered, body, reached, entry, final, tree, contents, listed, catalogued, built, written,
    lines (by decide +kernel)⟩

end Catalogue
end Rulebook
