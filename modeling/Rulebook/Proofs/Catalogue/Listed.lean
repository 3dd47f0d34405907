import Rulebook.Proofs.Catalogue.Reading
import Rulebook.Proofs.Listing.Paragraphs

/-!
# Rules of the listing and of the catalogue

The listing and the catalogue leave out the same lexer rules.  The catalogue leaves out parser rules
too: those whose name is that of a token which a parser rule shows as its spelling.
-/

namespace Rulebook
namespace Catalogue

/-- In a valid grammar the listing and the catalogue are written.  The paragraphs of the listing are
headed by the rendered parser rules and by the rendered lexer rules that no rule absorbs.  The items of
the catalogue are those of the same lexer rules and of the parser rules that no parser rule absorbs.
So both hold the same rules if and only if no parser rule has the name of a token that a parser rule
absorbs. -/
theorem items_eq_headings_iff {grammar : Grammar} (valid : grammar.validate = .ok ())
    (settings : Settings) (docs : Docs) :
    ∃ (texts : List Listing.Piece) (headings : List String) (document : Document) (tree : Tree),
      Listing.ofGrammar grammar settings = .ok (String.ofList texts.flatten) ∧
        List.Forall₂ Listing.IsHeadedBy headings texts ∧
          Catalogue.document grammar settings docs = .ok document ∧
            document.treeAt? Document.root = some tree ∧
              headings = (grammar.renderedRules settings .parser ++
                  grammar.keptLexerRules settings).map Rule.name ∧
                tree.markup.placements.map Prod.snd = (grammar.keptParserRules settings ++
                    grammar.keptLexerRules settings).map (fun rule => some rule.name) ∧
                  (tree.markup.placements.map Prod.snd = headings.map some ↔
                    ∀ rule ∈ grammar.renderedRules settings .parser, ¬ grammar.Absorbs settings
                      (grammar.renderedRules settings .parser) rule.name) := by
  obtain ⟨texts, listed, headed⟩ := Listing.exists_listing valid settings
  obtain ⟨_, _, _, _, rendered⟩ := exists_isRendered valid settings
  obtain ⟨document, tree, written, read, same⟩ := rendered.exists_tree valid docs
  refine ⟨texts, _, document, tree, listed, headed, written, read, rfl, same.items, ?_⟩
  rw [same.items, Grammar.itemRules, List.map_map]
  constructor
  · intro alike rule member
    -- The lexer rules are the same, so the lengths tell that no parser rule is left out.
    have kept := congrArg List.length alike
    rw [List.length_map, List.length_map, List.length_append, List.length_append,
      Nat.add_right_cancel_iff, Grammar.keptParserRules, List.length_filter_eq_length_iff] at kept
    exact decide_eq_true_eq.mp (kept rule member)
  · intro none
    have whole : grammar.keptParserRules settings = grammar.renderedRules settings .parser :=
      List.filter_eq_self.mpr fun rule member => decide_eq_true (none rule member)
    rw [whole]
    rfl

/-- A grammar in which a parser rule has the name of a token that is shown as its spelling. -/
def sharedName : Grammar :=
  { parserRules := [
      { name := "r", kind := .parser, line := 1, body := Notation.choiceOf [[Node.token "A"]] },
      { name := "A", kind := .parser, line := 1, body := Notation.choiceOf [[Node.token "B"]] }]
    lexerRules := [
      { name := "A", kind := .lexer, line := 1, body := Notation.choiceOf [[Node.literal "a"]] },
      { name := "B", kind := .lexer, line := 1
        body := Notation.choiceOf [[Node.leaf (.charSet "b")]] }]
    parserSource := ["parser grammar P \x7b r : A ; A : B ; \x7d"]
    lexerSource := ["lexer grammar L \x7b A : \"a\" ; B : [\"b\"] ; \x7d"] }

theorem ofTexts_sharedName :
    Grammar.ofTexts "parser grammar P \x7b r : A ; A : B ; \x7d"
      "lexer grammar L \x7b A : \"a\" ; B : [\"b\"] ; \x7d" = .ok sharedName := by
  decide +kernel

theorem items_eq_headings_iff_sharedName :
    ∃ (texts : List Listing.Piece) (headings : List String) (document : Document) (tree : Tree),
      Listing.ofGrammar sharedName {} = .ok (String.ofList texts.flatten) ∧
        List.Forall₂ Listing.IsHeadedBy headings texts ∧
          Catalogue.document sharedName {} Docs.none = .ok document ∧
            document.treeAt? Document.root = some tree ∧
              tree.markup.placements.map Prod.snd ≠ headings.map some := by
  obtain ⟨texts, headings, document, tree, listed, headed, written, read, -, -, alike⟩ :=
    items_eq_headings_iff (Grammar.validate_of_ofTexts ofTexts_sharedName) {} Docs.none
  refine ⟨texts, headings, document, tree, listed, headed, written, read, fun same => ?_⟩
  have absorbed : ¬ ∀ rule ∈ sharedName.renderedRules {} .parser,
      ¬ sharedName.Absorbs {} (sharedName.renderedRules {} .parser) rule.name := by
    decide
  exact absorbed (alike.mp same)

/-- The listing and the catalogue can hold different rules. -/
theorem not_forall_items_eq_headings :
    ¬ ∀ (grammar : Grammar), grammar.validate = .ok () → ∀ (settings : Settings) (docs : Docs)
        (texts : List Listing.Piece) (headings : List String) (document : Document) (tree : Tree),
      Listing.ofGrammar grammar settings = .ok (String.ofList texts.flatten) →
        List.Forall₂ Listing.IsHeadedBy headings texts →
          Catalogue.document grammar settings docs = .ok document →
            document.treeAt? Document.root = some tree →
              tree.markup.placements.map Prod.snd = headings.map some := by
  intro alike
  have valid := Grammar.validate_of_ofTexts ofTexts_sharedName
  have headed : List.Forall₂ Listing.IsHeadedBy ["r", "A", "B"]
      ["r\n: a\n;\n\n".toList, "A\n: B\n;\n\n".toList, "B\n: [b]\n;\n\n".toList] :=
    .cons (.inl ⟨"a".toList, rfl⟩) (.cons (.inl ⟨"B".toList, rfl⟩)
      (.cons (.inl ⟨"[b]".toList, rfl⟩) .nil))
  have listed : Listing.ofGrammar sharedName {} = .ok (String.ofList
      ["r\n: a\n;\n\n".toList, "A\n: B\n;\n\n".toList,
        "B\n: [b]\n;\n\n".toList].flatten) := by
    decide +kernel
  have items : (((Catalogue.document sharedName {} Docs.none).toOption.bind
      (·.treeAt? Document.root)).map fun tree => tree.markup.placements.map Prod.snd) =
        some [some "r", some "B"] := by
    decide +kernel
  cases written : Catalogue.document sharedName {} Docs.none with
  | error fault => simp [written, Except.toOption] at items
  | ok document =>
      rw [written] at items
      obtain ⟨tree, read, shown⟩ := Option.map_eq_some_iff.mp items
      have same := alike sharedName valid {} Docs.none _ _ document tree listed headed written read
      rw [shown] at same
      revert same
      decide

end Catalogue
end Rulebook
