import Rulebook.Proofs.Catalogue.Reading
import Rulebook.Proofs.Grammar.Names

/-!
# Identifiers and declarations

An identifier of a catalogue names a rule that is rendered, unless it shows a token whose lexer rule is
hidden.
-/

namespace Rulebook

/-- The name of a rule reference. -/
def NodeKind.ruleName? : NodeKind → Option String
  | ruleRef name => some name
  | _ => none

/-- Does every rule reference name a parser rule? -/
def Grammar.ResolvesRules (grammar : Grammar) : Prop :=
  ∀ kind, ∀ rule ∈ grammar.rules kind, rule.body.AllKinds fun part =>
    ∀ name ∈ part.ruleName?, (grammar.rule? .parser name).isSome = true

namespace Grammar

variable {grammar : Grammar} {settings : Settings}

theorem Absorbs.mono {rules more : List Rule} {token : String}
    (absorbs : grammar.Absorbs settings rules token) (subset : rules ⊆ more) :
    grammar.Absorbs settings more token := by
  obtain ⟨inlined, rule, member, refers⟩ := absorbs
  exact ⟨inlined, rule, subset member, refers⟩

/-- A name that is not absorbed is that of an item if and only if a rule of the name is rendered. -/
theorem exists_itemRule {name : String}
    (unabsorbed : ¬ grammar.Absorbs settings (grammar.allRendered settings) name) :
    (∃ rule ∈ grammar.itemRules settings, rule.name = name) ↔
      ∃ kind, ∃ rule ∈ grammar.renderedRules settings kind, rule.name = name := by
  have unabsorbed_before :
      ¬ grammar.Absorbs settings (grammar.renderedRules settings .parser) name := by
    intro absorbs
    exact unabsorbed (absorbs.mono (List.subset_append_left _ _))
  constructor
  · rintro ⟨rule, member, named⟩
    rcases List.mem_append.mp member with parser | lexer
    · exact ⟨.parser, rule, (List.mem_filter.mp parser).1, named⟩
    · exact ⟨.lexer, rule, (List.mem_filter.mp lexer).1, named⟩
  · rintro ⟨kind, rule, member, rfl⟩
    refine ⟨rule, ?_, rfl⟩
    cases kind with
    | parser =>
        apply List.mem_append_left
        exact List.mem_filter.mpr ⟨member, decide_eq_true unabsorbed_before⟩
    | lexer =>
        apply List.mem_append_right
        exact List.mem_filter.mpr ⟨member, decide_eq_true unabsorbed⟩

/-- The rules that are rendered name rules according to the namespaces of their names. -/
theorem allKinds_isFiled_of_mem_allRendered {parserText lexerText : String}
    (read : Grammar.ofTexts parserText lexerText = .ok grammar) {rule : Rule}
    (rendered : rule ∈ grammar.allRendered settings) : rule.body.AllKinds Notation.IsFiled := by
  have declared (kind : RuleKind) : ∀ rule ∈ grammar.rules kind,
      rule.body.AllKinds Notation.IsFiled := fun rule member =>
    (Grammar.readable_of_ofTexts read kind rule member).body.isElement.allKinds_isFiled
  obtain ⟨kind, member⟩ := mem_allRendered.mp rendered
  exact allKinds_of_mem_renderedRules trivial (declared kind) member

/-- No rule absorbs what a rule reference names, for the name is that of no token. -/
theorem not_absorbs_of_ruleRef {parserText lexerText : String}
    (read : Grammar.ofTexts parserText lexerText = .ok grammar) {rule : Rule} {name : String}
    (rendered : rule ∈ grammar.allRendered settings) (refers : .ruleRef name ∈ rule.body.tips) :
    ¬ grammar.Absorbs settings (grammar.allRendered settings) name := by
  rintro ⟨-, other, other_rendered, inside⟩
  obtain ⟨part, present, same⟩ := List.mem_map.mp (List.mem_filter.mp refers).1
  have parser : Notation.IsFiled part.kind :=
    allKinds_isFiled_of_mem_allRendered read rendered part present
  have lexer : RuleKind.ofName name = .lexer :=
    allKinds_isFiled_of_mem_allRendered read other_rendered _ inside
  rw [same, Notation.IsFiled, lexer] at parser
  simp at parser

/-- In a rendered rule, too, every rule reference names a parser rule. -/
theorem ResolvesRules.isSome_rule? (resolves : grammar.ResolvesRules) {rule : Rule} {name : String}
    (rendered : rule ∈ grammar.allRendered settings) (refers : .ruleRef name ∈ rule.body.tips) :
    (grammar.rule? .parser name).isSome = true := by
  have kinds : rule.body.AllKinds fun part =>
      ∀ name ∈ part.ruleName?, (grammar.rule? .parser name).isSome = true := by
    obtain ⟨kind, member⟩ := mem_allRendered.mp rendered
    exact allKinds_of_mem_renderedRules nofun (resolves kind) member
  obtain ⟨part, present, same⟩ := List.mem_map.mp (List.mem_filter.mp refers).1
  apply kinds part present
  rw [same]
  rfl

end Grammar

namespace Catalogue

/-- What is named by an identifier is declared if and only if there is a parser rule of the name, or a
lexer rule of the name that is not hidden. -/
theorem IsReadAs.mem_declared_iff {parserText lexerText : String} {grammar : Grammar}
    {settings : Settings} {tree : Tree} (same : IsReadAs grammar settings tree)
    (read : Grammar.ofTexts parserText lexerText = .ok grammar) {user : Rule} {name : String}
    (listed : user ∈ grammar.itemRules settings)
    (shown : some name ∈
      (bodyLinks grammar settings user.name user.body.tips).flatMap Step.identifiers) :
    name ∈ (Markup.declarations [tree.markup]).map Prod.fst ↔
      (∃ rule ∈ grammar.parserRules, rule.name = name) ∨
        ∃ rule ∈ grammar.lexerRules, rule.name = name ∧ settings.hides rule = false := by
  obtain ⟨_, named, tip⟩ := mem_identifiers_bodyLinks.mp shown
  cases named
  have rendered := Grammar.mem_allRendered_of_mem_itemRules listed
  -- What is shown by its name is not shown as a spelling elsewhere, so inlining takes no item away.
  have unabsorbed : ¬ grammar.Absorbs settings (grammar.allRendered settings) name := by
    rcases tip with refers | ⟨-, uninlined, -⟩
    · exact Grammar.not_absorbs_of_ruleRef read rendered refers
    · rintro ⟨inlined, -⟩
      simp [uninlined] at inlined
  have referenced : name ∈ user.body.referencedNames := by
    rw [Node.mem_referencedNames]
    rcases tip with refers | ⟨refers, -⟩
    · exact ⟨_, refers, rfl⟩
    · exact ⟨_, refers, rfl⟩
  have kept : name ∉ settings.excludedRules := by
    obtain ⟨_, member⟩ := Grammar.mem_allRendered.mp rendered
    exact Grammar.not_mem_excluded_of_mem_renderedRules member referenced
  rw [same.declared, List.mem_map, Grammar.exists_itemRule unabsorbed]
  simp only [Grammar.exists_renderedRule]
  constructor
  · rintro ⟨kind, rule, present, rfl, renders⟩
    cases kind with
    | parser => exact .inl ⟨rule, present, rfl⟩
    | lexer => exact .inr ⟨rule, present, rfl, by simpa [Settings.renders, kept] using renders⟩
  · rintro (⟨rule, present, rfl⟩ | ⟨rule, present, rfl, visible⟩)
    · exact ⟨.parser, rule, present, rfl, by simp [Settings.renders, kept]⟩
    · exact ⟨.lexer, rule, present, rfl, by simp [Settings.renders, kept, visible]⟩

/-- In a grammar that is read from two texts and whose rule references name parser rules, the
catalogue is written, and every identifier has a name.  The name is declared, unless there is no parser
rule of the name and the lexer rule of the name is hidden. -/
theorem undeclared_identifier_iff {parserText lexerText : String} {grammar : Grammar}
    (read : Grammar.ofTexts parserText lexerText = .ok grammar) (resolves : grammar.ResolvesRules)
    (settings : Settings) (docs : Docs) :
    ∃ document tree, Catalogue.document grammar settings docs = .ok document ∧
      document.treeAt? Document.root = some tree ∧
        ∀ shown ∈ Markup.identifiers [tree.markup], ∃ name, shown = some name ∧
          (name ∉ (Markup.declarations [tree.markup]).map Prod.fst ↔
            grammar.rule? .parser name = none ∧
              ∃ rule, grammar.rule? .lexer name = some rule ∧ settings.hides rule = true) := by
  have valid := Grammar.validate_of_ofTexts read
  obtain ⟨_, _, _, _, rendered⟩ := exists_isRendered valid settings
  obtain ⟨document, tree, written, read_back, same⟩ := rendered.exists_tree valid docs
  refine ⟨document, tree, written, read_back, fun shown member => ?_⟩
  rw [same.identifiers] at member
  obtain ⟨user, listed, inside⟩ := List.mem_flatMap.mp member
  obtain ⟨name, rfl, tip⟩ := mem_identifiers_bodyLinks.mp inside
  have known : (grammar.rule? .parser name).isSome = true ∨
      (grammar.rule? .lexer name).isSome = true := by
    rcases tip with refers | ⟨-, -, -, lexer⟩
    · exact .inl (resolves.isSome_rule? (Grammar.mem_allRendered_of_mem_itemRules listed) refers)
    · exact .inr lexer
  refine ⟨name, rfl, ?_⟩
  rw [same.mem_declared_iff read listed inside, not_or, ← Option.not_isSome_iff_eq_none,
    Grammar.isSome_rule?]
  refine and_congr_right fun unlisted => ?_
  constructor
  · intro no_visible
    obtain ⟨rule, found⟩ := Option.isSome_iff_exists.mp
      (known.resolve_left fun parser => unlisted (Grammar.isSome_rule?.mp parser))
    obtain ⟨present, named⟩ := Grammar.of_rule?_eq_some found
    refine ⟨rule, found, ?_⟩
    rw [← Bool.not_eq_false]
    exact fun visible => no_visible ⟨rule, present, named, visible⟩
  · rintro ⟨rule, found, hidden⟩ ⟨other, present, rfl, visible⟩
    have first : grammar.rule? .lexer other.name = some other := Grammar.rule?_name valid present
    rw [found] at first
    cases first
    simp [hidden] at visible

/-- A grammar whose rule refers to a token of a hidden mode. -/
def hiddenToken : Grammar :=
  { parserRules := [{
      name := "r", kind := .parser, line := 1, body := Notation.choiceOf [[Node.token "A"]] }]
    lexerRules := [{
      name := "A", kind := .lexer, mode := "Inside", line := 1
      body := Notation.choiceOf [[Node.leaf (.charSet "a")]] }]
    parserSource := ["parser grammar P \x7b r : A ; \x7d"]
    lexerSource := ["lexer grammar L \x7b mode Inside \x7b A : [\"a\"] ; \x7d \x7d"] }

theorem ofTexts_hiddenToken :
    Grammar.ofTexts "parser grammar P \x7b r : A ; \x7d"
      "lexer grammar L \x7b mode Inside \x7b A : [\"a\"] ; \x7d \x7d" = .ok hiddenToken := by
  decide +kernel

theorem resolvesRules_hiddenToken : hiddenToken.ResolvesRules := by
  intro kind
  cases kind <;> decide

theorem names_hiddenToken {document : Document} {tree : Tree}
    (written : Catalogue.document hiddenToken {} Docs.none = .ok document)
    (read : document.treeAt? Document.root = some tree) :
    Markup.identifiers [tree.markup] = [some "A"] ∧
      (Markup.declarations [tree.markup]).map Prod.fst = ["r"] := by
  have names : (((Catalogue.document hiddenToken {} Docs.none).toOption.bind
      (·.treeAt? Document.root)).map fun tree => (Markup.identifiers [tree.markup],
        (Markup.declarations [tree.markup]).map Prod.fst)) = some ([some "A"], ["r"]) := by
    decide +kernel
  rw [written] at names
  simpa [Except.toOption, read] using names

theorem undeclared_identifier_iff_hiddenToken :
    ∃ document tree, Catalogue.document hiddenToken {} Docs.none = .ok document ∧
      document.treeAt? Document.root = some tree ∧
        some "A" ∈ Markup.identifiers [tree.markup] ∧
          "A" ∉ (Markup.declarations [tree.markup]).map Prod.fst := by
  obtain ⟨document, tree, written, read, each⟩ :=
    undeclared_identifier_iff ofTexts_hiddenToken resolvesRules_hiddenToken {} Docs.none
  have shown : some "A" ∈ Markup.identifiers [tree.markup] := by
    rw [(names_hiddenToken written read).1]
    exact List.mem_cons_self
  obtain ⟨_, named, undeclared⟩ := each _ shown
  cases named
  refine ⟨document, tree, written, read, shown, undeclared.mpr ⟨?_, ?_⟩⟩
  · decide
  · exact ⟨hiddenToken.lexerRules[0], by decide, by decide⟩

/-- An identifier can name a rule that is not declared. -/
theorem not_forall_identifier_declared :
    ¬ ∀ (parserText lexerText : String) (grammar : Grammar),
      Grammar.ofTexts parserText lexerText = .ok grammar → grammar.ResolvesRules →
        ∀ (settings : Settings) (docs : Docs) (document : Document) (tree : Tree),
          Catalogue.document grammar settings docs = .ok document →
            document.treeAt? Document.root = some tree →
              ∀ shown ∈ Markup.identifiers [tree.markup], ∃ name, shown = some name ∧
                name ∈ (Markup.declarations [tree.markup]).map Prod.fst := by
  intro declared
  obtain ⟨_, _, _, _, rendered⟩ :=
    exists_isRendered (Grammar.validate_of_ofTexts ofTexts_hiddenToken) {}
  obtain ⟨document, tree, written, read, -⟩ :=
    rendered.exists_tree (Grammar.validate_of_ofTexts ofTexts_hiddenToken) Docs.none
  obtain ⟨shown, declares⟩ := names_hiddenToken written read
  obtain ⟨_, named, inside⟩ := declared _ _ _ ofTexts_hiddenToken resolvesRules_hiddenToken {}
    Docs.none document tree written read (some "A") (by rw [shown]; exact List.mem_cons_self)
  cases named
  rw [declares] at inside
  simp at inside

end Catalogue
end Rulebook
