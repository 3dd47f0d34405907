import Rulebook.Proofs.Catalogue.Identifiers
import Rulebook.Proofs.Listing.Paragraphs
import Rulebook.Proofs.Rendering.Answering

/-!
# Lexer rules that are left out

A lexer rule is left out exactly if a rendered rule refers to it and it is shown as its spelling.  It is
then shown so wherever a rendered rule refers to it.
-/

namespace Rulebook

namespace Listing

variable {grammar : Grammar} {settings : Settings}

/-- The listing shows every reference to a token that has a spelling as the spelling. -/
theorem showsAs_spelling {token spelling : String}
    (inlined : grammar.inlineSpelling? settings token = some spelling) {rule : Rule}
    (complete : rule.body.HasOperands) :
    (renderer grammar settings).ShowsAs token spelling.toList rule := by
  refine (matches_renderer_self grammar settings).showsAs (fun _ => rfl) (fun _ _ _ => .pure rfl)
    (fun state other related => ?_) complete
  obtain ⟨shown, kept⟩ := run_showToken grammar settings token state
  rw [inlined] at shown
  exact ⟨shown, kept.trans related⟩

end Listing

namespace Catalogue

section

variable {grammar : Grammar} {settings : Settings}

/-- Has the same rule been announced last in two states? -/
def SameRule (first second : State) : Prop :=
  first.current? = second.current?

theorem SameRule.currentName_eq {first second : State} (same : SameRule first second) :
    first.currentName = second.currentName :=
  congrArg (fun current? => (current?.map CurrentRule.name).getD "") same

theorem SameRule.currentKind_eq {first second : State} (same : SameRule first second) :
    first.currentKind = second.currentKind :=
  congrArg (fun current? => (current?.map CurrentRule.kind).getD .parser) same

/-- A token with a spelling is shown as the spelling whatever has been absorbed. -/
theorem run_showToken_of_some {token spelling : String}
    (inlined : grammar.inlineSpelling? settings token = some spelling) (state : State) :
    ((showTerminal grammar settings (.token token)).run state).1 = .string spelling := by
  have resolved := Inlining.run_resolve_of_some inlined state.inlining
  simp only [StateT.run, showTerminal] at resolved ⊢
  rw [resolved]

/-- A token without a spelling is shown by its name whatever has been absorbed. -/
theorem run_showToken_of_none {token : String}
    (named : grammar.inlineSpelling? settings token = none) (state : State) :
    ((showTerminal grammar settings (.token token)).run state).1 =
      { length := token.utf8ByteSize
        steps := [.reference token state.currentName, Piece.token grammar settings token] } := by
  have keeps := Inlining.run_resolve_of_none named state.inlining
  simp only [StateT.run, showTerminal] at keeps ⊢
  rw [keeps]

/-- What has been absorbed does not change how a terminal is shown. -/
theorem stepsMatch_showTerminal (shown : Terminal) :
    StepsMatch SameRule Eq (showTerminal grammar settings shown)
      (showTerminal grammar settings shown) := by
  intro state other related
  obtain ⟨-, kept⟩ := isContent_showTerminal grammar settings shown state
  obtain ⟨-, also⟩ := isContent_showTerminal grammar settings shown other
  refine ⟨?_, (kept.trans related).trans also.symm⟩
  cases shown with
  | literal value => rfl
  | token name =>
      cases spelled : grammar.inlineSpelling? settings name with
      | some spelling =>
          exact (run_showToken_of_some spelled state).trans
            (run_showToken_of_some spelled other).symm
      | none =>
          have first := run_showToken_of_none spelled state
          have second := run_showToken_of_none spelled other
          rw [related.currentName_eq] at first
          exact first.trans second.symm

/-- What has been absorbed does not change how a rule is rendered. -/
theorem matches_renderer_sameRule (grammar : Grammar) (settings : Settings) :
    Renderer.Matches (fun _ => True) SameRule Eq (renderer grammar settings)
      (renderer grammar settings) where
  optional _ _ _ _ operand := .pure (operand ▸ rfl)
  plus _ _ _ _ operand := .pure (operand ▸ rfl)
  star _ _ _ _ operand := .pure (operand ▸ rfl)
  negation _ _ _ operand := .pure (operand ▸ rfl)
  range _ _ _ _ _ left right := .pure (left ▸ right ▸ rfl)
  block _ _ _ _ all := by
    rw [List.forall₂_eq_eq_eq] at all
    exact .pure (all ▸ rfl)
  set _ _ _ _ all := by
    rw [List.forall₂_eq_eq_eq] at all
    exact .pure (all ▸ rfl)
  alternative grouping lefts rights _ all := by
    rw [List.forall₂_eq_eq_eq] at all
    subst all
    intro state other related
    refine ⟨?_, related⟩
    exact congrArg (fun current? : Option CurrentRule => Piece.alternative
      (current?.bind CurrentRule.lineBreaks?) settings.columnBudget grouping lefts) related
  sequence _ _ _ all := by
    rw [List.forall₂_eq_eq_eq] at all
    exact .pure (all ▸ rfl)
  terminal shown _ := stepsMatch_showTerminal shown
  ruleRef name _ := by
    intro state other related
    refine ⟨?_, related⟩
    exact congrArg (fun user => Piece.mk name.utf8ByteSize none
      [Piece.identifier name, .reference name user]) related.currentName_eq
  charSet _ _ := .pure rfl
  placeholder _ := .pure rfl
  predicate _ := .pure rfl

/-- The catalogue shows every reference to a token that has a spelling as the spelling. -/
theorem showsAs_spelling {token spelling : String}
    (inlined : grammar.inlineSpelling? settings token = some spelling) {rule : Rule}
    (complete : rule.body.HasOperands) :
    (renderer grammar settings).ShowsAs token (.string spelling) rule := by
  refine (matches_renderer_sameRule grammar settings).showsAs (fun _ => rfl)
    (fun body name line state other related => ⟨?_, related⟩) (fun state other related => ?_) complete
  · exact congrArg (fun kind => Piece.mk (Piece.totalLength body)
      (Section.openedAt? (grammar.source kind) settings.sectionMarkerOffset line)
      (Piece.startMark (settings.isStartRule name) ++
        [Piece.declaration name, Piece.description (body.flatMap Piece.steps)])) related.currentKind_eq
  · obtain ⟨-, kept⟩ := isContent_showTerminal grammar settings (.token token) state
    exact ⟨run_showToken_of_some inlined state, kept.trans related⟩

end

/-- A declared lexer rule that is neither excluded nor hidden is kept unless a rendered rule absorbs
it. -/
theorem not_mem_keptLexerRules_iff {grammar : Grammar} {settings : Settings} {rule : Rule}
    (declared : rule ∈ grammar.lexerRules) (kept : rule.name ∉ settings.excludedRules)
    (visible : settings.hides rule = false) :
    rule.name ∉ (grammar.keptLexerRules settings).map Rule.name ↔
      grammar.Absorbs settings (grammar.allRendered settings) rule.name := by
  have present : rule ∈ grammar.rules .lexer := declared
  have renders : settings.renders .lexer rule = true := by
    simp [Settings.renders, kept, visible]
  obtain ⟨rendered, listed, named⟩ :=
    Grammar.exists_renderedRule.mpr ⟨rule, present, rfl, renders⟩
  rw [not_iff_comm, Grammar.keptLexerRules, List.mem_map]
  constructor
  · intro unabsorbed
    exact ⟨rendered, List.mem_filter.mpr ⟨listed, decide_eq_true (named ▸ unabsorbed)⟩, named⟩
  · rintro ⟨other, member, same⟩ absorbs
    rw [← same] at absorbs
    exact decide_eq_true_eq.mp (List.mem_filter.mp member).2 absorbs

/-- What is rendered of a grammar that is read from two texts is what remains of the parser rules that
are not excluded and of the lexer rules that are neither excluded nor hidden.  The listing and the
catalogue are written.  Behind the parser rules both hold the same lexer rules.  A lexer rule that is
neither excluded nor hidden is missing from them if and only if some rendered rule refers to its token
and the token has a spelling.  Then both show every reference to the token in every rendered rule as the
spelling, and no identifier has the name of the token. -/
theorem omitted_iff_absorbed {parserText lexerText : String} {grammar : Grammar}
    (read : Grammar.ofTexts parserText lexerText = .ok grammar) (settings : Settings) (docs : Docs) :
    (∀ visited, visited ∈ grammar.allRendered settings ↔
      ∃ kind, ∃ declared ∈ grammar.rules kind, declared.name ∉ settings.excludedRules ∧
        (kind = .lexer → settings.hides declared = false) ∧
          settings.remainder declared = visited) ∧
    ∃ (texts : List Listing.Piece) (document : Document) (tree : Tree) (lexerNames : List String),
      Listing.ofGrammar grammar settings = .ok (String.ofList texts.flatten) ∧
        List.Forall₂ Listing.IsHeadedBy
            ((grammar.renderedRules settings .parser).map Rule.name ++ lexerNames) texts ∧
          Catalogue.document grammar settings docs = .ok document ∧
            document.treeAt? Document.root = some tree ∧
              tree.markup.placements.map Prod.snd =
                  ((grammar.keptParserRules settings).map Rule.name ++ lexerNames).map some ∧
                ∀ rule ∈ grammar.lexerRules, rule.name ∉ settings.excludedRules →
                  settings.hides rule = false →
                    (rule.name ∉ lexerNames ↔
                        (∃ visited ∈ grammar.allRendered settings,
                          Node.token rule.name ∈ visited.body.preorder) ∧
                            (grammar.inlineSpelling? settings rule.name).isSome = true) ∧
                      (rule.name ∉ lexerNames → ∃ spelling,
                        grammar.inlineSpelling? settings rule.name = some spelling ∧
                          (∀ visited ∈ grammar.allRendered settings,
                            (Listing.renderer grammar settings).ShowsAs rule.name spelling.toList
                                visited ∧
                              (renderer grammar settings).ShowsAs rule.name
                                { length := spelling.utf8ByteSize
                                  steps := [.element "string" [.cdata spelling]] } visited) ∧
                            some rule.name ∉ Markup.identifiers [tree.markup]) := by
  have valid := Grammar.validate_of_ofTexts read
  obtain ⟨texts, listed, headed⟩ := Listing.exists_listing valid settings
  obtain ⟨_, _, _, _, rendered⟩ := exists_isRendered valid settings
  obtain ⟨document, tree, written, read_back, same⟩ := rendered.exists_tree valid docs
  refine ⟨fun _ => Grammar.mem_allRendered.trans (exists_congr fun _ => Grammar.mem_renderedRules_iff),
    texts, document, tree, (grammar.keptLexerRules settings).map Rule.name, listed, ?_,
    written, read_back, ?_, fun rule declared kept visible => ?_⟩
  · rw [← List.map_append]
    exact headed
  · rw [same.items, Grammar.itemRules, ← List.map_append, List.map_map]
    rfl
  have omitted := not_mem_keptLexerRules_iff declared kept visible
  refine ⟨omitted.trans and_comm, fun missing => ?_⟩
  obtain ⟨inlined, visited, visited_rendered, refers⟩ := omitted.mp missing
  obtain ⟨spelling, spelled⟩ := Option.isSome_iff_exists.mp inlined
  refine ⟨spelling, spelled, fun other other_rendered => ?_, fun shown => ?_⟩
  · have complete := Grammar.hasOperands_of_mem_allRendered valid other_rendered
    exact ⟨Listing.showsAs_spelling spelled complete, showsAs_spelling spelled complete⟩
  · rw [same.identifiers] at shown
    obtain ⟨user, user_listed, inside⟩ := List.mem_flatMap.mp shown
    obtain ⟨_, named, tip⟩ := mem_identifiers_bodyLinks.mp inside
    cases named
    -- A rule reference is filed under a parser rule, so it cannot have the name of a token.
    rcases tip with rule_refers | ⟨-, uninlined, -⟩
    · apply Grammar.not_absorbs_of_ruleRef read
        (Grammar.mem_allRendered_of_mem_itemRules user_listed) rule_refers
      exact omitted.mp missing
    · simp [spelled] at uninlined

/-- A grammar in which a lexer rule is used only after it, and another is not used. -/
def spelledToken : Grammar :=
  { parserRules := [{
      name := "r", kind := .parser, line := 1, body := Notation.choiceOf [[Node.token "B"]] }]
    lexerRules := [
      { name := "A", kind := .lexer, line := 1, body := Notation.choiceOf [[Node.literal "a"]] },
      { name := "B", kind := .lexer, line := 1
        body := Notation.choiceOf [[Node.leaf (.charSet "b"), Node.token "A"]] }]
    parserSource := ["parser grammar P \x7b r : B ; \x7d"]
    lexerSource := ["lexer grammar L \x7b A : \"a\" ; B : [\"b\"] A ; \x7d"] }

theorem omitted_iff_absorbed_spelledToken :
    ∃ (texts : List Listing.Piece) (document : Document) (tree : Tree) (lexerNames : List String),
      Listing.ofGrammar spelledToken {} = .ok (String.ofList texts.flatten) ∧
        Catalogue.document spelledToken {} Docs.none = .ok document ∧
          document.treeAt? Document.root = some tree ∧
            "A" ∉ lexerNames ∧ "B" ∈ lexerNames ∧
              (∀ visited ∈ spelledToken.allRendered {},
                (Listing.renderer spelledToken {}).ShowsAs "A" ['a'] visited ∧
                  (renderer spelledToken {}).ShowsAs "A"
                    { length := 1, steps := [.element "string" [.cdata "a"]] } visited) ∧
                some "A" ∉ Markup.identifiers [tree.markup] := by
  have read : Grammar.ofTexts "parser grammar P \x7b r : B ; \x7d"
      "lexer grammar L \x7b A : \"a\" ; B : [\"b\"] A ; \x7d" = .ok spelledToken := by
    decide +kernel
  obtain ⟨-, texts, document, tree, lexerNames, listed, -, written, read_back, -, each⟩ :=
    omitted_iff_absorbed read {} Docs.none
  obtain ⟨omitted, shown⟩ := each spelledToken.lexerRules[0] (by decide +kernel)
    (by decide +kernel) (by decide +kernel)
  obtain ⟨kept, -⟩ := each spelledToken.lexerRules[1] (by decide +kernel) (by decide +kernel)
    (by decide +kernel)
  have missing : "A" ∉ lexerNames := omitted.mpr (by decide +kernel)
  obtain ⟨spelling, spelled, everywhere, unnamed⟩ := shown missing
  have value : spelling = "a" := by
    have inlined : spelledToken.inlineSpelling? {} "A" = some "a" := by
      decide +kernel
    exact Option.some.inj (spelled.symm.trans inlined)
  subst value
  refine ⟨texts, document, tree, lexerNames, listed, written, read_back, missing, ?_, everywhere,
    unnamed⟩
  by_contra absent
  have impossible := kept.mp absent
  revert impossible
  decide +kernel

end Catalogue
end Rulebook
