import Rulebook.Listing.Assembly
import Rulebook.Proofs.Grammar.Names
import Rulebook.Proofs.Rendering.Absorption

/-!
# Paragraphs of the listing

Every rule that is rendered has a paragraph headed by its name, and the paragraphs of the lexer rules
that are absorbed by any of the rendered rules are left out.
-/

namespace Rulebook
namespace Listing

/-- What a state of the listing has absorbed is told by the tips so far. -/
def Tracks (grammar : Grammar) (settings : Settings) (state : State) (tips : List NodeKind) : Prop :=
  state.inlining.Covers grammar settings tips

/-- The listing absorbs the rules of the tokens that it shows as spellings, and no others. -/
theorem matches_collector (grammar : Grammar) (settings : Settings) :
    Renderer.Matches (fun _ => True) (Tracks grammar settings) (fun _ _ => True)
      (renderer grammar settings) collector where
  optional _ _ _ _ _ := .pure trivial
  plus _ _ _ _ _ := .pure trivial
  star _ _ _ _ _ := .pure trivial
  negation _ _ _ _ := .pure trivial
  range _ _ _ _ _ _ _ := .pure trivial
  block _ _ _ _ _ := .pure trivial
  set _ _ _ _ _ := .pure trivial
  alternative _ _ _ _ _ _ _ related := ⟨trivial, related⟩
  sequence _ _ _ _ := .pure trivial
  terminal shown _ := by
    intro state tips related
    cases shown with
    | literal value => exact ⟨trivial, Inlining.Covers.of_not_token related (by simp)⟩
    | token name => exact ⟨trivial, Inlining.Covers.resolve related name⟩
  ruleRef _ _ _ _ related := ⟨trivial, Inlining.Covers.of_not_token related (by simp)⟩
  charSet _ _ _ _ related := ⟨trivial, Inlining.Covers.of_not_token related (by simp)⟩
  placeholder _ _ _ related := ⟨trivial, Inlining.Covers.of_not_token related (by simp)⟩
  predicate _ _ _ related := ⟨trivial, Inlining.Covers.of_not_token related (by simp)⟩

/-- Do two states settle the line breaks of the current rule alike? -/
def SameBreaks (first second : State) : Prop :=
  first.lineBreaks? = second.lineBreaks?

/-- A token is shown as the same text whatever has been absorbed. -/
theorem run_showToken (grammar : Grammar) (settings : Settings) (name : String) (state : State) :
    ((showTerminal grammar settings (.token name)).run state).1 =
        ((grammar.inlineSpelling? settings name).getD name).toList ∧
      SameBreaks ((showTerminal grammar settings (.token name)).run state).2 state := by
  cases shown : grammar.inlineSpelling? settings name with
  | none =>
      have keeps := Inlining.run_resolve_of_none shown state.inlining
      simp only [StateT.run, showTerminal] at keeps ⊢
      rw [keeps]
      exact ⟨rfl, rfl⟩
  | some spelling =>
      have resolved := Inlining.run_resolve_of_some shown state.inlining
      simp only [StateT.run, showTerminal] at resolved ⊢
      rw [resolved]
      exact ⟨rfl, rfl⟩

/-- What has been absorbed does not change how a rule is rendered. -/
theorem matches_renderer_self (grammar : Grammar) (settings : Settings) :
    Renderer.Matches (fun _ => True) SameBreaks Eq (renderer grammar settings)
      (renderer grammar settings) where
  optional _ _ _ _ operand := .pure (operand ▸ rfl)
  plus _ _ _ _ operand := .pure (operand ▸ rfl)
  star _ _ _ _ operand := .pure (operand ▸ rfl)
  negation _ _ _ operand := .pure (operand ▸ rfl)
  range _ _ _ _ _ left right := .pure (left ▸ right ▸ rfl)
  block _ _ _ _ all := by
    rw [List.forall₂_eq_eq_eq] at all
    exact .pure (all ▸ rfl)
  set _ _ _ _ all := by
    rw [List.forall₂_eq_eq_eq] at all
    exact .pure (all ▸ rfl)
  alternative grouping lefts rights _ all := by
    rw [List.forall₂_eq_eq_eq] at all
    subst all
    intro state other related
    refine ⟨?_, related⟩
    exact congrArg (fun breaks => group grouping lefts.length (elements breaks lefts)) related
  sequence _ _ _ all := by
    rw [List.forall₂_eq_eq_eq] at all
    exact .pure (all ▸ rfl)
  terminal shown _ := by
    cases shown with
    | literal value => exact .pure rfl
    | token name =>
        intro state other related
        obtain ⟨first, kept⟩ := run_showToken grammar settings name state
        obtain ⟨second, also⟩ := run_showToken grammar settings name other
        exact ⟨first.trans second.symm, (kept.trans related).trans also.symm⟩
  ruleRef _ _ := .pure rfl
  charSet _ _ := .pure rfl
  placeholder _ := .pure rfl
  predicate _ := .pure rfl

/-- Is a text a paragraph headed by a name? -/
def IsParagraph (name : String) (text : Piece) : Prop :=
  ∃ body : List Char, text = name.toList ++ ['\n', ':', ' '] ++ body ++ ['\n', ';', '\n', '\n']

/-- A rule whose operators have their operands is rendered to a paragraph that it heads. -/
theorem rendersTo_paragraph {grammar : Grammar} {settings : Settings} {rule : Rule}
    (complete : rule.body.HasOperands) :
    RendersTo (renderer grammar settings) (Tracks grammar settings)
      (fun rule text => IsParagraph rule.name text) rule := by
  intro start earlier related
  let entered : State := { start with lineBreaks? := settings.breaksOf? rule.name }
  have tracked : Tracks grammar settings entered earlier := related
  obtain ⟨text, reached, body, -, after⟩ :=
    (matches_collector grammar settings).exists_render complete Position.body tracked
  exact ⟨paragraph settings.textColumnBudget rule.name ([text] : List Piece).flatten, reached,
    Rule.run_render_of_ok body, ⟨_, rfl⟩, after⟩

/-- If every rule whose operators have their operands is rendered to an entry, then the rules of a valid
grammar are, and what has been absorbed in the end is what the rendered rules absorb. -/
theorem exists_paragraphs {grammar : Grammar} {entries : Rule → Piece → Prop}
    (valid : grammar.validate = .ok ()) (settings : Settings)
    (each : ∀ {rule : Rule}, rule.body.HasOperands →
      RendersTo (renderer grammar settings) (Tracks grammar settings) entries rule) :
    ∃ (parserPart lexerPart : List (Rule × Piece)) (state : State),
      paragraphs grammar settings = .ok ((parserPart, lexerPart), state) ∧
        parserPart.map Prod.fst = grammar.renderedRules settings .parser ∧
          lexerPart.map Prod.fst = grammar.renderedRules settings .lexer ∧
            (∀ rendered ∈ parserPart ++ lexerPart, entries rendered.1 rendered.2) ∧
              ∀ name, state.inlining.absorbs name = true ↔
                grammar.Absorbs settings (grammar.allRendered settings) name := by
  have nothing : Tracks grammar settings {} [] := Inlining.covers_nil
  obtain ⟨parserPart, lexerPart, middle, state, parser_run, lexer_run, parser_rules, lexer_rules,
    entered, -, after⟩ := grammar.exists_renderRules valid settings each nothing
  refine ⟨parserPart, lexerPart, state, ?_, parser_rules, lexer_rules, entered, ?_⟩
  · rw [paragraphs, Descent.run_bind_of_ok parser_run, Descent.run_bind_of_ok lexer_run]
    rfl
  · exact Inlining.Covers.absorbs_iff after fun rule =>
      Grammar.hasOperands_of_mem_allRendered valid

/-- Only paragraphs of fragments are marked. -/
theorem lexerParagraph_of_not_fragment {rule : Rule} (whole : rule.isFragment = false)
    (text : Piece) : lexerParagraph rule text = text := by
  rw [lexerParagraph, whole, if_neg Bool.false_ne_true]

/-- The rules that are listed: the rendered parser rules, and the rendered lexer rules that no rendered
rule absorbs. -/
def listedRules (grammar : Grammar) (settings : Settings) : List Rule :=
  grammar.renderedRules settings .parser ++ grammar.keptLexerRules settings

/-- The listing of a valid grammar consists of the entries of the listed rules, those of fragments
marked. -/
theorem exists_entries {grammar : Grammar} {entries : Rule → Piece → Prop}
    (valid : grammar.validate = .ok ()) (settings : Settings)
    (each : ∀ {rule : Rule}, rule.body.HasOperands →
      RendersTo (renderer grammar settings) (Tracks grammar settings) entries rule) :
    ∃ texts : List Piece, ofGrammar grammar settings = .ok (String.ofList texts.flatten) ∧
      List.Forall₂ (fun rule text => ∃ entry, entries rule entry ∧ text = lexerParagraph rule entry)
        (listedRules grammar settings) texts := by
  obtain ⟨parserPart, lexerPart, state, run, parser_rules, lexer_rules, entered, absorbs⟩ :=
    exists_paragraphs valid settings each
  refine ⟨parserPart.map Prod.snd ++
    (unabsorbed state lexerPart).map fun rendered => lexerParagraph rendered.1 rendered.2, ?_, ?_⟩
  · rw [ofGrammar, run, List.flatten_append, ← List.flatMap_def, ← List.flatMap_def]
    rfl
  · have kept : (unabsorbed state lexerPart).map Prod.fst = grammar.keptLexerRules settings := by
      rw [Grammar.keptLexerRules, ← Inlining.filter_not_absorbs absorbs, ← lexer_rules, List.filter_map]
      rfl
    rw [listedRules, ← kept, ← parser_rules]
    apply List.rel_append
    · rw [List.forall₂_map_left_iff, List.forall₂_map_right_iff, List.forall₂_same]
      intro rendered member
      have listed : rendered.1 ∈ grammar.renderedRules settings .parser :=
        parser_rules ▸ List.mem_map_of_mem member
      have whole := (Grammar.belongsTo_of_mem_renderedRules valid listed).not_fragment rfl
      exact ⟨rendered.2, entered rendered (List.mem_append_left _ member),
        (lexerParagraph_of_not_fragment whole rendered.2).symm⟩
    · rw [List.forall₂_map_left_iff, List.forall₂_map_right_iff, List.forall₂_same]
      intro rendered member
      exact ⟨rendered.2, entered rendered (List.mem_append_right _ (List.mem_filter.mp member).1), rfl⟩

/-- Is a text a paragraph headed by a name, perhaps marked as that of a fragment? -/
def IsHeadedBy (name : String) (text : Piece) : Prop :=
  IsParagraph name text ∨ ∃ paragraph, text = "[helper] ".toList ++ paragraph ∧
    IsParagraph name paragraph

theorem isHeadedBy_lexerParagraph {rule : Rule} {text : Piece} (headed : IsParagraph rule.name text) :
    IsHeadedBy rule.name (lexerParagraph rule text) := by
  unfold lexerParagraph
  split
  · exact .inr ⟨text, rfl, headed⟩
  · exact .inl headed

/-- The listing of a valid grammar consists of paragraphs headed by the rendered parser rules and by
the rendered lexer rules that no rendered rule absorbs. -/
theorem exists_listing {grammar : Grammar} (valid : grammar.validate = .ok ()) (settings : Settings) :
    ∃ texts : List Piece, ofGrammar grammar settings = .ok (String.ofList texts.flatten) ∧
      List.Forall₂ IsHeadedBy
        ((grammar.renderedRules settings .parser ++ grammar.keptLexerRules settings).map Rule.name)
        texts := by
  obtain ⟨texts, listed, entered⟩ := exists_entries valid settings rendersTo_paragraph
  refine ⟨texts, listed, List.forall₂_map_left_iff.mpr (entered.imp ?_)⟩
  rintro rule _ ⟨entry, headed, rfl⟩
  exact isHeadedBy_lexerParagraph headed

/-! ### Paragraphs by themselves -/

section

variable {grammar : Grammar} {settings : Settings}

/-- A rule is rendered to the same text from every state. -/
theorem match_render_eq (grammar : Grammar) (settings : Settings) (rule : Rule) :
    Descent.Match (fun _ _ => True) Eq (rule.render (renderer grammar settings))
      (rule.render (renderer grammar settings)) := by
  refine (matches_renderer_self grammar settings).rule (fun _ _ => trivial) (fun _ _ _ => rfl) ?_
  rintro text _ rfl _ _ -
  exact ⟨rfl, trivial⟩

/-- The paragraph of a rule in the listing: what the rule renders to by itself. -/
def paragraphOf (grammar : Grammar) (settings : Settings) (rule : Rule) : Piece :=
  match (rule.render (renderer grammar settings)).run {} with
  | .ok (text, _) => lexerParagraph rule text
  | .error _ => []

/-- Whatever has been rendered before, a rule has its paragraph, which is headed by its name. -/
theorem rendersTo_paragraphOf {rule : Rule} (complete : rule.body.HasOperands) :
    RendersTo (renderer grammar settings) (Tracks grammar settings)
      (fun rule text => lexerParagraph rule text = paragraphOf grammar settings rule ∧
        IsHeadedBy rule.name (lexerParagraph rule text)) rule := by
  intro start earlier related
  obtain ⟨text, reached, run, headed, after⟩ := rendersTo_paragraph complete related
  refine ⟨text, reached, run, ⟨?_, isHeadedBy_lexerParagraph headed⟩, after⟩
  have alone := match_render_eq grammar settings rule start {} trivial
  rw [run] at alone
  rw [paragraphOf]
  generalize (rule.render (renderer grammar settings)).run {} = outcome at alone ⊢
  cases alone with
  | ok same => exact congrArg (lexerParagraph rule) same

/-- The declared rules that are listed when some lexer rules have been absorbed: the rendered parser
rules, and then the rendered lexer rules that are not absorbed. -/
def listed (settings : Settings) (inlining : Inlining) (declared : Grammar) : List Rule :=
  declared.parserRules.filter (settings.renders .parser) ++
    declared.lexerRules.filter fun rule =>
      settings.renders .lexer rule && !inlining.absorbs rule.name

theorem listedRules_eq {inlining : Inlining}
    (absorbs_iff : ∀ name, inlining.absorbs name = true ↔
      grammar.Absorbs settings (grammar.allRendered settings) name) :
    listedRules grammar settings = (listed settings inlining grammar).map settings.remainder := by
  have kept : (fun rule => settings.renders .lexer rule && !inlining.absorbs rule.name) = fun rule =>
      !inlining.absorbs (settings.remainder rule).name && settings.renders .lexer rule := by
    funext rule
    rw [Settings.name_remainder, Bool.and_comm]
  rw [listedRules, listed, Grammar.keptLexerRules, ← Inlining.filter_not_absorbs absorbs_iff,
    Grammar.renderedRules_eq, Grammar.renderedRules_eq, List.map_append, List.filter_map,
    List.filter_filter, kept]
  rfl

/-- The listing of a valid grammar consists of the paragraphs of its listed rules. -/
theorem ofGrammar_eq (valid : grammar.validate = .ok ()) (settings : Settings) :
    ofGrammar grammar settings = .ok (String.ofList
        ((listedRules grammar settings).flatMap (paragraphOf grammar settings))) ∧
      ∀ rule ∈ listedRules grammar settings,
        IsHeadedBy rule.name (paragraphOf grammar settings rule) := by
  obtain ⟨texts, text, entered⟩ := exists_entries valid settings rendersTo_paragraphOf
  have described : List.Forall₂
      (fun rule text => IsHeadedBy rule.name (paragraphOf grammar settings rule) ∧
        paragraphOf grammar settings rule = text) (listedRules grammar settings) texts := by
    refine entered.imp ?_
    rintro rule _ ⟨entry, ⟨same, headed⟩, rfl⟩
    exact ⟨same ▸ headed, same.symm⟩
  obtain ⟨headed, same⟩ := (List.forall₂_and_left _ _).mp described
  rw [← List.forall₂_map_left_iff, List.forall₂_eq_eq_eq] at same
  refine ⟨?_, headed⟩
  rw [text, ← same, ← List.flatMap_def]

/-- The listing of a valid grammar consists of the paragraphs of the declared rules that are listed. -/
theorem ofGrammar_eq_listed (valid : grammar.validate = .ok ()) {inlining : Inlining}
    (absorbs_iff : ∀ name, inlining.absorbs name = true ↔
      grammar.Absorbs settings (grammar.allRendered settings) name) :
    ofGrammar grammar settings = .ok (String.ofList ((listed settings inlining grammar).flatMap
        fun rule => paragraphOf grammar settings (settings.remainder rule))) ∧
      ∀ rule ∈ listed settings inlining grammar,
        IsHeadedBy rule.name (paragraphOf grammar settings (settings.remainder rule)) := by
  obtain ⟨text, headed⟩ := ofGrammar_eq valid settings
  rw [listedRules_eq absorbs_iff] at text headed
  refine ⟨?_, fun rule member => ?_⟩
  · rw [text, List.flatMap_map]
  · have named := headed _ (List.mem_map_of_mem member)
    rwa [Settings.name_remainder] at named

end

end Listing
end Rulebook
