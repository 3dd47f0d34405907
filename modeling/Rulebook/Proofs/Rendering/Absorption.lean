import Rulebook.Proofs.Grammar.Inlining
import Rulebook.Proofs.Rendering.Collection

/-!
# Absorbed rules

What has been absorbed after some rules have been rendered is told by their tips: the rules of the
tokens among them that are shown as spellings.  It does not depend on the order of the rules, nor on
what else is rendered.
-/

namespace Rulebook

namespace Inlining

theorem absorbs_absorb {inlining : Inlining} {token name : String} :
    (inlining.absorb token).absorbs name = true ↔ inlining.absorbs name = true ∨ name = token := by
  unfold absorb
  split
  · rename_i known
    constructor
    · exact .inl
    · rintro (absorbed | rfl)
      · exact absorbed
      · exact known
  · simp [absorbs]

/-- Has exactly what is shown as a spelling among some tips been absorbed? -/
def Covers (grammar : Grammar) (settings : Settings) (inlining : Inlining) (tips : List NodeKind) :
    Prop :=
  ∀ name, inlining.absorbs name = true ↔
    (grammar.inlineSpelling? settings name).isSome = true ∧ .terminal (.token name) ∈ tips

variable {grammar : Grammar} {settings : Settings} {inlining : Inlining} {tips : List NodeKind}

theorem covers_nil : Covers grammar settings {} [] := by
  intro name
  simp [absorbs]

theorem Covers.of_not_token (covers : Covers grammar settings inlining tips) {tip : NodeKind}
    (other : ∀ name, tip ≠ .terminal (.token name)) :
    Covers grammar settings inlining (tips ++ [tip]) := by
  intro name
  rw [covers name, List.mem_append, List.mem_singleton, or_iff_left (other name).symm]

/-- To show a token absorbs its rule if the token is shown as a spelling. -/
theorem Covers.resolve (covers : Covers grammar settings inlining tips) (token : String) :
    Covers grammar settings ((Inlining.resolve grammar settings token).run inlining).2
      (tips ++ [.terminal (.token token)]) := by
  intro name
  have later : NodeKind.terminal (.token name) ∈ tips ++ [.terminal (.token token)] ↔
      .terminal (.token name) ∈ tips ∨ name = token := by
    simp
  rw [later]
  cases shown : grammar.inlineSpelling? settings token with
  | none =>
      rw [run_resolve_of_none shown, covers name]
      constructor
      · rintro ⟨inlined, inside⟩
        exact ⟨inlined, .inl inside⟩
      · rintro ⟨inlined, inside | rfl⟩
        · exact ⟨inlined, inside⟩
        · simp [shown] at inlined
  | some spelling =>
      -- A token that has been absorbed before is not added again, so only membership is compared.
      rw [run_resolve_of_some shown, absorbs_absorb, covers name]
      constructor
      · rintro (⟨inlined, inside⟩ | rfl)
        · exact ⟨inlined, .inl inside⟩
        · exact ⟨by rw [shown]; rfl, .inr rfl⟩
      · rintro ⟨inlined, inside | same⟩
        · exact .inl ⟨inlined, inside⟩
        · exact .inr same

end Inlining

/-- Is the rule of a token absorbed when some rules are rendered?  It is if one of them refers to the
token and the token is shown as a spelling. -/
def Grammar.Absorbs (grammar : Grammar) (settings : Settings) (rules : List Rule) (token : String) :
    Prop :=
  (grammar.inlineSpelling? settings token).isSome = true ∧
    ∃ rule ∈ rules, Node.token token ∈ rule.body.preorder

instance (grammar : Grammar) (settings : Settings) (rules : List Rule) :
    DecidablePred (grammar.Absorbs settings rules) :=
  fun token => inferInstanceAs (Decidable (_ ∧ ∃ rule ∈ rules, Node.token token ∈ rule.body.preorder))

/-- The rules of both namespaces that are rendered. -/
def Grammar.allRendered (grammar : Grammar) (settings : Settings) : List Rule :=
  grammar.renderedRules settings .parser ++ grammar.renderedRules settings .lexer

theorem Grammar.mem_allRendered {grammar : Grammar} {settings : Settings} {rule : Rule} :
    rule ∈ grammar.allRendered settings ↔ ∃ kind, rule ∈ grammar.renderedRules settings kind := by
  rw [allRendered, List.mem_append]
  constructor
  · rintro (parser | lexer)
    · exact ⟨.parser, parser⟩
    · exact ⟨.lexer, lexer⟩
  · rintro ⟨kind, member⟩
    cases kind with
    | parser => exact .inl member
    | lexer => exact .inr member

theorem Grammar.hasOperands_of_mem_allRendered {grammar : Grammar} {settings : Settings}
    (valid : grammar.validate = .ok ()) {rule : Rule}
    (rendered : rule ∈ grammar.allRendered settings) : rule.body.HasOperands := by
  obtain ⟨_, member⟩ := mem_allRendered.mp rendered
  exact hasOperands_of_mem_renderedRules valid member

/-- The rules of a valid grammar are rendered, the parser rules before the lexer rules, if every rule
whose operators have their operands is. -/
theorem Grammar.exists_renderRules {State Piece : Type} {renderer : Renderer State Piece}
    {states : State → List NodeKind → Prop} {entries : Rule → Piece → Prop} {grammar : Grammar}
    (valid : grammar.validate = .ok ()) (settings : Settings)
    (each : ∀ {rule : Rule}, rule.body.HasOperands → RendersTo renderer states entries rule)
    {start : State} (nothing : states start []) :
    ∃ parserPart lexerPart afterParser afterLexer,
      (renderRules renderer (grammar.renderedRules settings .parser)).run start =
          .ok (parserPart, afterParser) ∧
        (renderRules renderer (grammar.renderedRules settings .lexer)).run afterParser =
            .ok (lexerPart, afterLexer) ∧
          parserPart.map Prod.fst = grammar.renderedRules settings .parser ∧
            lexerPart.map Prod.fst = grammar.renderedRules settings .lexer ∧
              (∀ entry ∈ parserPart ++ lexerPart, entries entry.1 entry.2) ∧
                states afterParser (tipsOf (grammar.renderedRules settings .parser)) ∧
                  states afterLexer (tipsOf (grammar.allRendered settings)) := by
  have rendersTo (kind : RuleKind) : ∀ rule ∈ grammar.renderedRules settings kind,
      RendersTo renderer states entries rule :=
    fun rule member => each (hasOperands_of_mem_renderedRules valid member)
  obtain ⟨parserPart, afterParser, parser_run, parser_rules, parser_entries, between⟩ :=
    Rulebook.exists_renderRules (rendersTo .parser) nothing
  obtain ⟨lexerPart, afterLexer, lexer_run, lexer_rules, lexer_entries, after⟩ :=
    Rulebook.exists_renderRules (rendersTo .lexer) between
  rw [List.nil_append] at between after
  rw [tipsOf, tipsOf, ← List.flatMap_append] at after
  exact ⟨parserPart, lexerPart, afterParser, afterLexer, parser_run, lexer_run, parser_rules,
    lexer_rules, List.forall_mem_append.mpr ⟨parser_entries, lexer_entries⟩, between, after⟩

/-- The rendered parser rules that no parser rule absorbs. -/
def Grammar.keptParserRules (grammar : Grammar) (settings : Settings) : List Rule :=
  (grammar.renderedRules settings .parser).filter fun rule =>
    ¬ grammar.Absorbs settings (grammar.renderedRules settings .parser) rule.name

/-- The rendered lexer rules that no rendered rule absorbs. -/
def Grammar.keptLexerRules (grammar : Grammar) (settings : Settings) : List Rule :=
  (grammar.renderedRules settings .lexer).filter fun rule =>
    ¬ grammar.Absorbs settings (grammar.allRendered settings) rule.name

theorem Inlining.Covers.absorbs_iff {grammar : Grammar} {settings : Settings} {inlining : Inlining}
    {rules : List Rule} (covers : Covers grammar settings inlining (tipsOf rules))
    (complete : ∀ rule ∈ rules, rule.body.HasOperands) (name : String) :
    inlining.absorbs name = true ↔ grammar.Absorbs settings rules name := by
  rw [covers name, Grammar.Absorbs, tipsOf, List.mem_flatMap]
  refine and_congr_right fun _ => exists_congr fun rule => and_congr_right fun member => ?_
  exact (Node.leaf_mem_preorder (complete rule member) rfl).symm

/-- The rules that have not been absorbed are those that the rendered rules do not absorb. -/
theorem Inlining.filter_not_absorbs {grammar : Grammar} {settings : Settings} {inlining : Inlining}
    {rendered : List Rule}
    (absorbs_iff : ∀ name, inlining.absorbs name = true ↔ grammar.Absorbs settings rendered name)
    (rules : List Rule) :
    (rules.filter fun rule => !inlining.absorbs rule.name) =
      rules.filter fun rule => ¬ grammar.Absorbs settings rendered rule.name := by
  refine List.filter_congr fun rule _ => ?_
  rw [Bool.eq_iff_iff, decide_eq_true_iff, ← absorbs_iff rule.name, Bool.not_eq_true',
    Bool.not_eq_true]

end Rulebook
