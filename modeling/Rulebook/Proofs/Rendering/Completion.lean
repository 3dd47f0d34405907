import Rulebook.Conversion
import Rulebook.Proofs.Catalogue.Written
import Rulebook.Proofs.Document.Built
import Rulebook.Proofs.Listing.Paragraphs

/-!
# Renderings come to an end

To remove rules from a valid grammar leaves a valid grammar, so no renderer ever finds an operator
without its operands.  Every valid grammar is therefore rendered in both forms, and its catalogue only
addresses elements that are there.
-/

namespace Rulebook

/-- The grammar without the excluded rules and without references to them. -/
def Grammar.without (excluded : List String) (grammar : Grammar) : Grammar :=
  { grammar with
    parserRules := filterRules excluded grammar.parserRules
    lexerRules := filterRules excluded grammar.lexerRules }

theorem Grammar.rules_without (excluded : List String) (grammar : Grammar) (kind : RuleKind) :
    (grammar.without excluded).rules kind = filterRules excluded (grammar.rules kind) := by
  cases kind <;> rfl

/-- The rules that remain keep their names and their order. -/
theorem sublist_names_filterRules (excluded : List String) (rules : List Rule) :
    ((filterRules excluded rules).map Rule.name).Sublist (rules.map Rule.name) := by
  unfold filterRules
  split
  · exact .refl _
  · rw [List.map_map]
    exact List.filter_sublist.map Rule.name

/-- A valid grammar without some of its rules is valid. -/
theorem Grammar.validate_without {grammar : Grammar} (valid : grammar.validate = .ok ())
    (excluded : List String) : (grammar.without excluded).validate = .ok () := by
  refine validate_eq_ok.mpr fun kind => ?_
  obtain ⟨distinct, belong⟩ := validate_eq_ok.mp valid kind
  rw [rules_without]
  refine ⟨distinct.sublist (sublist_names_filterRules excluded _), fun rule member => ?_⟩
  obtain ⟨declared, present, rfl | rfl⟩ := mem_filterRules member
  · exact belong rule present
  · exact (belong declared present).without excluded

/-- In a valid grammar every renderer finds the operands of every operator. -/
theorem Grammar.succeeds_of_validate {grammar : Grammar} (valid : grammar.validate = .ok ())
    {kind : RuleKind} {rule : Rule} (member : rule ∈ grammar.rules kind) {State Piece : Type}
    (renderer : Renderer State Piece) : (rule.render renderer).Succeeds :=
  Rule.render_succeeds renderer ((validate_eq_ok.mp valid kind).2 rule member).operands

/-- A valid grammar has a catalogue, which only addresses elements that are there. -/
theorem Catalogue.exists_built_document {grammar : Grammar} (valid : grammar.validate = .ok ())
    (settings : Settings) (docs : Docs) :
    ∃ document, Catalogue.document grammar settings docs = .ok document ∧ document.Built := by
  obtain ⟨parserPart, lexerPart, afterParser, afterLexer, rendered⟩ :=
    exists_isRendered valid settings
  exact ⟨_, document_eq docs rendered.parser_run rendered.lexer_run,
    Builder.built_finish fun step member => (rendered.tidy docs step member).placed⟩

/-- Removing rules keeps a grammar valid and every rule renderable, and every valid grammar is rendered
in both forms. -/
theorem Grammar.renders_of_validate {grammar : Grammar} (valid : grammar.validate = .ok ()) :
    (∀ excluded, (grammar.without excluded).validate = .ok () ∧
      ∀ kind, ∀ rule ∈ (grammar.without excluded).rules kind, ∀ (State Piece : Type)
        (renderer : Renderer State Piece), (rule.render renderer).Succeeds) ∧
      ∀ (settings : Settings) (docs : Docs),
        (∃ listing, render grammar .text settings docs = .ok listing) ∧
          ∃ document, Catalogue.document grammar settings docs = .ok document ∧ document.Built ∧
            render grammar .xml settings docs = .ok document.toXml := by
  refine ⟨fun excluded => ⟨validate_without valid excluded, ?_⟩, fun settings docs => ⟨?_, ?_⟩⟩
  · intro kind rule member State Piece renderer
    exact succeeds_of_validate (validate_without valid excluded) member renderer
  · obtain ⟨texts, listed, -⟩ := Listing.exists_listing valid settings
    exact ⟨_, listed⟩
  · obtain ⟨document, written, built⟩ := Catalogue.exists_built_document valid settings docs
    refine ⟨document, written, built, ?_⟩
    rw [render, Catalogue.ofGrammar, written]
    rfl

/-- A grammar with a range and a repetition of which an excluded token takes the operands. -/
def excludedOperands : Grammar where
  parserRules :=
    [{ name := "r"
       kind := .parser
       line := 1
       body := .block [.alternative [.mk .range [.literal "a", .token "NL"],
         .mk (.plus true) [.token "NL"], .mk (.star false) [.token "A"]]] }]
  lexerRules :=
    [{ name := "NL", kind := .lexer, line := 1, body := .block [.alternative [.literal "n"]] },
     { name := "A", kind := .lexer, line := 2, body := .block [.alternative [.token "NL"]] }]

/-- Operators that lose an operand go with it, so the grammar stays valid and is rendered. -/
theorem renders_excludedOperands :
    (excludedOperands.without ["NL"]).validate = .ok () ∧
      (∃ listing, render excludedOperands .text {} Docs.none = .ok listing) ∧
        ∃ document, Catalogue.document excludedOperands {} Docs.none = .ok document ∧
          document.Built ∧ render excludedOperands .xml {} Docs.none = .ok document.toXml := by
  have valid : excludedOperands.validate = .ok () := by decide +kernel
  have renders := Grammar.renders_of_validate valid
  exact ⟨(renders.1 ["NL"]).1, renders.2 {} Docs.none⟩

end Rulebook
