import Rulebook.Notation.Grammar
import Rulebook.Proofs.Notation.Image

/-!
# Grammars that are accepted

The rules of a rule set that is read have names of the notation, bodies of the shape that the reader
builds, and modes only in lexer rule sets.  A grammar that is read from two texts holds such rules, and
it is valid.
-/

namespace Rulebook

/-- A rule that the reader can build in a namespace. -/
structure Rule.Readable (kind : RuleKind) (rule : Rule) : Prop where
  /-- Its name is a name of the notation. -/
  name : Notation.IsIdentifier rule.name
  /-- Its kind is that of the namespace. -/
  kind_eq : rule.kind = kind
  /-- Its body is a choice between alternatives over elements. -/
  body : Notation.IsBody rule.body

/-- The words that cannot name a mode: the keywords in use, those kept for later, and the underscore. -/
def Notation.keywords : List String :=
  ["abstract", "as", "async", "await", "become", "box", "break", "const", "continue", "crate",
   "do", "dyn", "else", "enum", "extern", "false", "final", "fn", "for", "if", "impl", "in", "let",
   "loop", "macro", "match", "mod", "move", "mut", "override", "priv", "pub", "ref", "return",
   "Self", "self", "static", "struct", "super", "trait", "true", "try", "type", "typeof", "unsafe",
   "unsized", "use", "virtual", "where", "while", "yield", "_"]

/-- A rule that can be written in the notation of a namespace. -/
structure Rule.WellShaped (kind : RuleKind) (rule : Rule) : Prop extends rule.Readable kind where
  /-- Modes belong to lexer rules and are named by identifiers that are no keywords. -/
  mode : rule.mode ≠ "DEFAULT_MODE" →
    kind = .lexer ∧ Notation.IsIdentifier rule.mode ∧ rule.mode ∉ Notation.keywords

/-- A rule set that can be written in the notation. -/
structure RuleSet.WellShaped (set : RuleSet) : Prop where
  /-- Its name is a name of the notation. -/
  name : Notation.IsIdentifier set.name
  /-- Its rules can be written in the notation of its namespace. -/
  rules : ∀ rule ∈ set.rules, rule.WellShaped set.kind

namespace Notation

theorem isIdentifier_of_readIdentifier {items rest : List Item} {name : String} {line : Nat}
    (sound : ∀ item ∈ items, item.Sound)
    (read : readIdentifier items = .ok ((name, line), rest)) : IsIdentifier name := by
  revert read
  fun_cases readIdentifier items with
  | case1 found position =>
      intro read
      simp only [Except.ok.injEq, Prod.mk.injEq] at read
      exact read.1.1 ▸ sound (.leaf (.identifier found position)) List.mem_cons_self
  | case2 => simp

theorem isElement_of_readAlternative {items rest : List Item} {node : Node}
    (sound : ∀ item ∈ items, item.Sound) (read : readAlternative items = .ok (node, rest)) :
    ∃ row, node = Node.alternative row ∧ ∀ node ∈ row, IsElement node := by
  obtain ⟨nodes, _, _, elements, _, _, rfl⟩ := readAlternative_eq_ok.mp read
  exact ⟨nodes, rfl, isElement_of_readElements sound elements⟩

theorem isBody_of_readAlternatives {items rest : List Item} {alternatives : List Node}
    (sound : ∀ item ∈ items, item.Sound)
    (read : readAlternatives items = .ok (alternatives, rest)) :
    IsBody (Node.block alternatives) := by
  fun_induction readAlternatives items generalizing alternatives rest with
  | case1 => simp_all
  | case2 => simp_all
  | case3 items node after first bar more last later induction =>
      simp only [Except.ok.injEq, Prod.mk.injEq] at read
      obtain ⟨row, rfl, each⟩ := isElement_of_readAlternative sound first
      have after_sound := sound_of_suffix sound
        ((List.drop_suffix 1 after).trans (suffix_of_readAlternative first))
      exact read.1 ▸ (induction after_sound later).cons each
  | case4 items node after first bar =>
      simp only [Except.ok.injEq, Prod.mk.injEq] at read
      obtain ⟨row, rfl, each⟩ := isElement_of_readAlternative sound first
      exact read.1 ▸ isBody_single each

theorem readable_of_readRule {kind : RuleKind} {mode : String} {items rest : List Item}
    {rule : Rule} (sound : ∀ item ∈ items, item.Sound)
    (read : readRule kind mode items = .ok (rule, rest)) : rule.Readable kind := by
  obtain ⟨name, line, first, second, alternatives, third, identifier, colon, body, _, rfl⟩ :=
    readRule_eq_ok.mp read
  have start_sound := sound_of_suffix sound (ite_drop_suffix (startsWithFragment items) 1 items)
  have second_sound := sound_of_suffix start_sound
    ((suffix_of_readMark colon).trans (shortens_of_readIdentifier identifier).suffix)
  exact ⟨isIdentifier_of_readIdentifier start_sound identifier, rfl,
    isBody_of_readAlternatives second_sound body⟩

theorem mode_of_readRule {kind : RuleKind} {mode : String} {items rest : List Item} {rule : Rule}
    (read : readRule kind mode items = .ok (rule, rest)) : rule.mode = mode := by
  obtain ⟨_, _, _, _, _, _, _, _, _, _, rfl⟩ := readRule_eq_ok.mp read
  rfl

theorem readable_of_readModeRules {kind : RuleKind} {mode : String} {items : List Item}
    {rules : List Rule} (sound : ∀ item ∈ items, item.Sound)
    (read : readModeRules kind mode items = .ok rules) :
    ∀ rule ∈ rules, rule.Readable kind ∧ rule.mode = mode := by
  fun_induction readModeRules kind mode items generalizing rules with
  | case1 => simp_all
  | case2 => simp at read
  | case3 => simp at read
  | case4 items _ rule after first later others induction =>
      simp only [Except.ok.injEq] at read
      have after_sound := sound_of_suffix sound (shortens_of_readRule first).suffix
      exact read ▸ List.forall_mem_cons.mpr
        ⟨⟨readable_of_readRule sound first, mode_of_readRule first⟩, induction after_sound others⟩

theorem sound_of_modeAtFront? {items rest : List Item} {name : String}
    {content : List TokenTree} (sound : ∀ item ∈ items, item.Sound)
    (found : modeAtFront? items = some (name, content, rest)) :
    (∀ tree ∈ content, tree.Named) ∧ ∀ item ∈ rest, item.Sound := by
  revert found
  fun_cases modeAtFront? items with
  | case1 word _ named _ tokens after =>
      intro found
      simp only [Option.some.injEq, Prod.mk.injEq] at found
      obtain ⟨-, rfl, rfl⟩ := found
      simp only [List.forall_mem_cons] at sound
      exact ⟨sound.2.2.1, sound.2.2.2⟩
  | case2 => simp
  | case3 => simp

theorem isIdentifier_of_modeAtFront? {items rest : List Item} {name : String}
    {content : List TokenTree} (sound : ∀ item ∈ items, item.Sound)
    (found : modeAtFront? items = some (name, content, rest)) :
    IsIdentifier name ∧ name ∉ keywords := by
  revert found
  fun_cases modeAtFront? items with
  | case1 word _ named _ tokens after allowed =>
      intro found
      simp only [Option.some.injEq, Prod.mk.injEq] at found
      simp only [List.forall_mem_cons] at sound
      exact found.1 ▸ ⟨sound.2.1, allowed.2⟩
  | case2 => simp
  | case3 => simp

theorem wellShaped_of_readRules {kind : RuleKind} {items : List Item} {rules : List Rule}
    (sound : ∀ item ∈ items, item.Sound) (read : readRules kind items = .ok rules) :
    ∀ rule ∈ rules, rule.WellShaped kind := by
  fun_induction readRules kind items generalizing rules with
  | case1 => simp_all
  | case2 => simp at read
  | case3 => simp at read
  | case4 => simp at read
  | case5 items _ mode content after front lexer inner inside later others induction =>
      simp only [Except.ok.injEq] at read
      obtain ⟨named, after_sound⟩ := sound_of_modeAtFront? sound front
      have lexer_kind : kind = .lexer := by cases kind <;> simp_all
      rw [← read]
      refine List.forall_mem_append.mpr ⟨fun rule member => ?_, induction after_sound others⟩
      obtain ⟨readable, rfl⟩ := readable_of_readModeRules (sound_items named) inside rule member
      exact ⟨readable, fun _ => ⟨lexer_kind, isIdentifier_of_modeAtFront? sound front⟩⟩
  | case6 => simp at read
  | case7 => simp at read
  | case8 items _ _ rule after first later others induction =>
      simp only [Except.ok.injEq] at read
      have after_sound := sound_of_suffix sound (shortens_of_readRule first).suffix
      exact read ▸ List.forall_mem_cons.mpr
        ⟨⟨readable_of_readRule sound first, fun other => (other (mode_of_readRule first)).elim⟩,
          induction after_sound others⟩

end Notation

/-! ### Readers in sequence -/

theorem Except.bind_eq_ok {Fault Value Result : Type} {first : Except Fault Value}
    {next : Value → Except Fault Result} {result : Result} :
    (first >>= next) = .ok result ↔ ∃ value, first = .ok value ∧ next value = .ok result := by
  cases first with
  | error fault => simp [bind, Except.bind]
  | ok value => simp [bind, Except.bind]

theorem Except.mapError_eq_ok {Fault Wrapped Value : Type} {wrap : Fault → Wrapped}
    {read : Except Fault Value} {value : Value} :
    read.mapError wrap = .ok value ↔ read = .ok value := by
  cases read with
  | error fault => simp [Except.mapError]
  | ok found => simp [Except.mapError]

namespace Notation

theorem suffix_of_readKind {items rest : List Item} {kind : RuleKind}
    (read : readKind items = .ok (kind, rest)) : rest <:+ items := by
  revert read
  fun_cases readKind items <;> intro read <;>
    simp only [Except.ok.injEq, Prod.mk.injEq, reduceCtorEq] at read
  all_goals
    rw [← read.2]
    exact List.suffix_cons _ _

theorem suffix_of_readGrammarWord {items rest : List Item}
    (read : readGrammarWord items = .ok ((), rest)) : rest <:+ items := by
  unfold readGrammarWord at read
  split at read
  · simp only [Except.ok.injEq, Prod.mk.injEq, true_and] at read
    exact read ▸ List.drop_suffix 1 items
  · simp at read

theorem named_of_readBraces {items rest : List Item} {content : List TokenTree}
    (sound : ∀ item ∈ items, item.Sound) (read : readBraces items = .ok (content, rest)) :
    ∀ tree ∈ content, tree.Named := by
  revert read
  fun_cases readBraces items with
  | case1 tokens after =>
      intro read
      simp only [Except.ok.injEq, Prod.mk.injEq] at read
      exact read.1 ▸ sound (.braces tokens) List.mem_cons_self
  | case2 => simp

theorem wellShaped_of_readItems {items : List Item} {set : RuleSet}
    (sound : ∀ item ∈ items, item.Sound) (read : readItems items = .ok set) : set.WellShaped := by
  unfold readItems at read
  obtain ⟨⟨kind, second⟩, opening, read⟩ := Except.bind_eq_ok.mp read
  obtain ⟨⟨⟨⟩, third⟩, word, read⟩ := Except.bind_eq_ok.mp read
  obtain ⟨⟨⟨name, line⟩, fourth⟩, identifier, read⟩ := Except.bind_eq_ok.mp read
  obtain ⟨⟨content, fifth⟩, braces, read⟩ := Except.bind_eq_ok.mp read
  obtain ⟨found, body, read⟩ := Except.bind_eq_ok.mp read
  have third_sound := sound_of_suffix sound
    ((suffix_of_readGrammarWord word).trans (suffix_of_readKind opening))
  have fourth_sound := sound_of_suffix third_sound (shortens_of_readIdentifier identifier).suffix
  split at read
  · simp only [Except.ok.injEq] at read
    exact read ▸ ⟨isIdentifier_of_readIdentifier third_sound identifier,
      wellShaped_of_readRules (sound_items (named_of_readBraces fourth_sound braces)) body⟩
  · simp at read

end Notation

/-- A rule set that is read from a text is well-shaped. -/
theorem RuleSet.wellShaped_of_ofText {text : String} {rules : RuleSet}
    (read : RuleSet.ofText text = .ok rules) : rules.WellShaped := by
  unfold RuleSet.ofText at read
  split at read
  · simp at read
  · rename_i tokens scanned
    exact Notation.wellShaped_of_readItems
      (Notation.sound_items (Notation.named_of_tokens? scanned)) read

/-- The rules of a rule set that is read from a text are readable. -/
theorem RuleSet.readable_of_ofText {text : String} {rules : RuleSet}
    (read : RuleSet.ofText text = .ok rules) : ∀ rule ∈ rules.rules, rule.Readable rules.kind :=
  fun rule member => ((RuleSet.wellShaped_of_ofText read).rules rule member).toReadable

/-- A grammar that is read from two texts holds the rules of a parser rule set and of a lexer rule
set, and it is valid. -/
theorem Grammar.ofTexts_eq_ok {parserText lexerText : String} {grammar : Grammar}
    (read : Grammar.ofTexts parserText lexerText = .ok grammar) :
    ∃ parserRules lexerRules : RuleSet, RuleSet.ofText parserText = .ok parserRules ∧
      RuleSet.ofText lexerText = .ok lexerRules ∧ parserRules.kind = .parser ∧
        lexerRules.kind = .lexer ∧ grammar.validate = .ok () ∧
          grammar = Grammar.withSources
            { parserRules := parserRules.rules, lexerRules := lexerRules.rules }
            parserText lexerText := by
  unfold Grammar.ofTexts at read
  obtain ⟨parserRules, parser_read, read⟩ := Except.bind_eq_ok.mp read
  obtain ⟨lexerRules, lexer_read, read⟩ := Except.bind_eq_ok.mp read
  obtain ⟨assembled, joined, read⟩ := Except.bind_eq_ok.mp read
  unfold RuleSet.assemble at joined
  obtain ⟨⟨⟩, parser_kind, joined⟩ := Except.bind_eq_ok.mp joined
  obtain ⟨⟨⟩, lexer_kind, joined⟩ := Except.bind_eq_ok.mp joined
  have same := Except.ok.inj joined
  unfold Grammar.validated at read
  split at read
  · rename_i valid
    have accepted := Except.ok.inj read
    simp only [RuleSet.checkKind, ite_eq_left_iff, reduceCtorEq, imp_false, not_not]
      at parser_kind lexer_kind
    exact ⟨parserRules, lexerRules, Except.mapError_eq_ok.mp parser_read,
      Except.mapError_eq_ok.mp lexer_read, parser_kind, lexer_kind, accepted ▸ valid,
      by rw [← accepted, ← same]⟩
  · simp at read

/-- A grammar that is read from two texts has readable rules. -/
theorem Grammar.readable_of_ofTexts {parserText lexerText : String} {grammar : Grammar}
    (read : Grammar.ofTexts parserText lexerText = .ok grammar) (kind : RuleKind) :
    ∀ rule ∈ grammar.rules kind, rule.Readable kind := by
  obtain ⟨parserRules, lexerRules, parser_read, lexer_read, parser_kind, lexer_kind, -, rfl⟩ :=
    Grammar.ofTexts_eq_ok read
  cases kind with
  | parser =>
      rw [← parser_kind]
      exact parser_kind.symm ▸ RuleSet.readable_of_ofText parser_read
  | lexer =>
      rw [← lexer_kind]
      exact lexer_kind.symm ▸ RuleSet.readable_of_ofText lexer_read

/-- A grammar that is read from two texts is valid. -/
theorem Grammar.validate_of_ofTexts {parserText lexerText : String} {grammar : Grammar}
    (read : Grammar.ofTexts parserText lexerText = .ok grammar) : grammar.validate = .ok () := by
  obtain ⟨_, _, _, _, _, _, valid, _⟩ := Grammar.ofTexts_eq_ok read
  exact valid

/-- The text in which the rules of a namespace are declared. -/
def RuleKind.textOf (parserText lexerText : String) : RuleKind → String
  | .parser => parserText
  | .lexer => lexerText

/-- The source lines of a grammar that is read from two texts are the lines of these texts. -/
theorem Grammar.source_of_ofTexts {parserText lexerText : String} {grammar : Grammar}
    (read : Grammar.ofTexts parserText lexerText = .ok grammar) (kind : RuleKind) :
    grammar.source kind = Text.lines (kind.textOf parserText lexerText) := by
  obtain ⟨_, _, _, _, _, _, _, rfl⟩ := Grammar.ofTexts_eq_ok read
  cases kind <;> rfl

end Rulebook
