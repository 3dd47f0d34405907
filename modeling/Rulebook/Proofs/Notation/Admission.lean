import Rulebook.Proofs.Notation.Accepted

/-!
# Which rule sets make a grammar

Two rule sets that are read make a grammar if they are of the two kinds, names are distinct in each
of them and no parser rule is a fragment.  Nothing else can be wrong with them: every rule is listed
with the rules of its kind, and every operator that is read has its operands.
-/

namespace Rulebook

/-! ### What the reader never breaks -/

theorem Node.hasOperands_leaf {kind : NodeKind} (leaf : kind.isLeaf = true) :
    (Node.leaf kind).HasOperands := by
  refine hasOperands_mk.mpr ⟨fun count demanded => ?_, nofun⟩
  cases kind <;> simp_all [NodeKind.arity?, NodeKind.isLeaf]

theorem Notation.hasOperands_choiceOf {rows : List (List Node)}
    (each : ∀ row ∈ rows, ∀ node ∈ row, node.HasOperands) : (choiceOf rows).HasOperands := by
  have free : NodeKind.arity? .block = none ∧ NodeKind.arity? .alternative = none := ⟨rfl, rfl⟩
  refine Node.hasOperands_mk.mpr ⟨by simp [free], List.forall_mem_map.mpr fun row member => ?_⟩
  exact Node.hasOperands_mk.mpr ⟨by simp [free], each row member⟩

/-- Every element that is read has the operands that it needs. -/
theorem Notation.IsElement.hasOperands {node : Node} (element : IsElement node) :
    node.HasOperands := by
  induction element with
  | literal | charSet | token | ruleRef | predicate | placeholder => exact Node.hasOperands_leaf rfl
  | choice _ _ each => exact hasOperands_choiceOf each
  | @quantified quantifier rows quantifies _ _ each =>
      have single : quantifier.arity? = some 1 := by
        cases quantifier <;> simp_all [NodeKind.isQuantifier, NodeKind.arity?]
      refine Node.hasOperands_mk.mpr ⟨by simp [single], ?_⟩
      exact List.forall_mem_singleton.mpr (hasOperands_choiceOf each)
  | range _ _ _ _ left right =>
      refine Node.hasOperands_mk.mpr ⟨by simp [NodeKind.arity?], ?_⟩
      exact List.forall_mem_cons.mpr ⟨left, List.forall_mem_singleton.mpr right⟩
  | negation _ _ _ operand =>
      refine Node.hasOperands_mk.mpr ⟨by simp [NodeKind.arity?], ?_⟩
      exact List.forall_mem_singleton.mpr operand
  | negatedSet _ _ _ members =>
      refine Node.hasOperands_mk.mpr ⟨by simp [NodeKind.arity?], List.forall_mem_singleton.mpr ?_⟩
      exact Node.hasOperands_mk.mpr ⟨by simp [NodeKind.arity?, NodeKind.isLeaf], members⟩

namespace Rule

variable {kind : RuleKind} {rule : Rule}

/-- A rule that is read belongs among the rules of its namespace, unless it is a parser fragment. -/
theorem Readable.belongsTo (readable : rule.Readable kind)
    (whole : kind = .parser → rule.isFragment = false) : rule.BelongsTo kind where
  kind_eq := readable.kind_eq
  not_fragment := whole
  operands := readable.body.isElement.hasOperands

/-- Of all violations, a rule that is read can only repeat a name or be a parser fragment. -/
theorem Readable.violation?_cases (readable : rule.Readable kind) {earlier : List String}
    {cause : ViolationCause} (found : rule.violation? kind earlier = some cause) :
    (cause = .duplicate kind rule.name ∧ rule.name ∈ earlier) ∨
      (cause = .parserFragment rule.name ∧ kind = .parser ∧ rule.isFragment = true) := by
  have operands : rule.body.firstArityViolation? rule.name = none :=
    (Node.firstArityViolation?_eq_none rule.name).mpr readable.body.isElement.hasOperands
  unfold violation? at found
  split at found
  · exact .inl ⟨(Option.some.inj found).symm, by assumption⟩
  · rw [if_neg (not_not.mpr readable.kind_eq)] at found
    split at found
    · rename_i fragment
      exact .inr ⟨(Option.some.inj found).symm, fragment.2, fragment.1⟩
    · simp [operands] at found

end Rule

/-- The first violation is that of the first rule that has one, behind rules without any. -/
theorem exists_of_firstViolation?_eq_some {kind : RuleKind} {earlier : List String}
    {rules : List Rule} {violation : Violation}
    (found : firstViolation? kind earlier rules = some violation) :
    ∃ before rule after, rules = before ++ rule :: after ∧
      firstViolation? kind earlier before = none ∧ violation.line = rule.line ∧
        rule.violation? kind ((before.map Rule.name).reverse ++ earlier) =
          some violation.cause := by
  induction rules generalizing earlier with
  | nil => simp [firstViolation?] at found
  | cons first rules induction =>
      cases violated : first.violation? kind earlier with
      | some cause =>
          rw [firstViolation?, violated] at found
          obtain rfl := Option.some.inj found
          exact ⟨[], first, rules, rfl, rfl, rfl, violated⟩
      | none =>
          rw [firstViolation?, violated] at found
          obtain ⟨before, rule, after, rfl, flawless, line, cause⟩ := induction found
          refine ⟨first :: before, rule, after, rfl, ?_, line, ?_⟩
          · rw [firstViolation?, violated]
            exact flawless
          · simpa using cause

/-! ### Pairs of rule sets -/

/-- Can a parser rule set and a lexer rule set be put together? -/
structure RuleSet.Complements (parserRules lexerRules : RuleSet) : Prop where
  /-- The first holds parser rules. -/
  parser_kind : parserRules.kind = .parser
  /-- The second holds lexer rules. -/
  lexer_kind : lexerRules.kind = .lexer
  /-- The names of the parser rules are distinct. -/
  parser_names : (parserRules.rules.map Rule.name).Nodup
  /-- The names of the lexer rules are distinct. -/
  lexer_names : (lexerRules.rules.map Rule.name).Nodup
  /-- No parser rule is a fragment. -/
  not_fragment : ∀ rule ∈ parserRules.rules, rule.isFragment = false

/-- The grammar of the rules of two rule sets, read from two texts. -/
def RuleSet.joined (parserRules lexerRules : RuleSet) (parserText lexerText : String) : Grammar :=
  Grammar.withSources { parserRules := parserRules.rules, lexerRules := lexerRules.rules }
    parserText lexerText

namespace Grammar

variable {parserText lexerText : String} {parserRules lexerRules : RuleSet}

/-- Rule sets of the two kinds are put together, and then the grammar is checked. -/
theorem ofTexts_eq_validated (parser_read : RuleSet.ofText parserText = .ok parserRules)
    (lexer_read : RuleSet.ofText lexerText = .ok lexerRules)
    (parser_kind : parserRules.kind = .parser) (lexer_kind : lexerRules.kind = .lexer) :
    Grammar.ofTexts parserText lexerText =
      (parserRules.joined lexerRules parserText lexerText).validated := by
  simp [Grammar.ofTexts, parser_read, lexer_read, Except.mapError, RuleSet.assemble,
    RuleSet.checkKind, parser_kind, lexer_kind, RuleSet.joined, bind, Except.bind, pure,
    Except.pure]

/-- A rule set of the wrong kind is refused before the grammar is checked. -/
theorem kinds_of_ofTexts_invalid {violation : Violation}
    (parser_read : RuleSet.ofText parserText = .ok parserRules)
    (lexer_read : RuleSet.ofText lexerText = .ok lexerRules)
    (refused : Grammar.ofTexts parserText lexerText = .error (.invalid violation)) :
    parserRules.kind = .parser ∧ lexerRules.kind = .lexer := by
  by_cases parser_kind : parserRules.kind = .parser
  · by_cases lexer_kind : lexerRules.kind = .lexer
    · exact ⟨parser_kind, lexer_kind⟩
    · simp [Grammar.ofTexts, parser_read, lexer_read, Except.mapError, RuleSet.assemble,
        RuleSet.checkKind, parser_kind, lexer_kind, bind, Except.bind] at refused
  · simp [Grammar.ofTexts, parser_read, lexer_read, Except.mapError, RuleSet.assemble,
      RuleSet.checkKind, parser_kind, bind, Except.bind] at refused

/-- The rules of both rule sets are readable in their namespaces. -/
theorem readable_joined (parser_read : RuleSet.ofText parserText = .ok parserRules)
    (lexer_read : RuleSet.ofText lexerText = .ok lexerRules)
    (parser_kind : parserRules.kind = .parser) (lexer_kind : lexerRules.kind = .lexer)
    (kind : RuleKind) :
    ∀ rule ∈ (parserRules.joined lexerRules parserText lexerText).rules kind,
      rule.Readable kind := by
  have parser_readable := RuleSet.readable_of_ofText parser_read
  have lexer_readable := RuleSet.readable_of_ofText lexer_read
  rw [parser_kind] at parser_readable
  rw [lexer_kind] at lexer_readable
  cases kind with
  | parser => exact parser_readable
  | lexer => exact lexer_readable

/-- Rule sets of the two kinds are valid together if they complement each other. -/
theorem validate_joined_eq_ok (parser_read : RuleSet.ofText parserText = .ok parserRules)
    (lexer_read : RuleSet.ofText lexerText = .ok lexerRules)
    (parser_kind : parserRules.kind = .parser) (lexer_kind : lexerRules.kind = .lexer) :
    (parserRules.joined lexerRules parserText lexerText).validate = .ok () ↔
      parserRules.Complements lexerRules := by
  have readable := readable_joined parser_read lexer_read parser_kind lexer_kind
  rw [validate_eq_ok]
  constructor
  · intro valid
    exact ⟨parser_kind, lexer_kind, (valid .parser).1, (valid .lexer).1,
      fun rule member => ((valid .parser).2 rule member).not_fragment rfl⟩
  · rintro ⟨-, -, parser_names, lexer_names, whole⟩ kind
    cases kind with
    | parser =>
        exact ⟨parser_names, fun rule member =>
          (readable .parser rule member).belongsTo fun _ => whole rule member⟩
    | lexer =>
        exact ⟨lexer_names, fun rule member =>
          (readable .lexer rule member).belongsTo nofun⟩

/-- The violation that is reported is the first one of one of the namespaces. -/
theorem firstViolation?_of_validated_eq_error {grammar : Grammar} {violation : Violation}
    (refused : grammar.validated = .error (.invalid violation)) :
    ∃ kind, firstViolation? kind [] (grammar.rules kind) = some violation := by
  unfold validated validate at refused
  split at refused
  · simp at refused
  · rename_i found checked
    obtain rfl := GrammarFault.invalid.inj (Except.error.inj refused)
    split at checked
    · exact ⟨.parser, (Except.error.inj checked) ▸ by assumption⟩
    · split at checked
      · exact ⟨.lexer, (Except.error.inj checked) ▸ by assumption⟩
      · simp at checked

/-- Two texts of which each is a rule set are a grammar if and only if the rule sets complement each
other.  A violation that is reported is that of a rule, behind rules with distinct names, which
repeats the name of one of them or is a parser fragment; no rule is listed with the rules of the
wrong kind, and none has an operator without its operands. -/
theorem ofTexts_isOk_iff (parser_read : RuleSet.ofText parserText = .ok parserRules)
    (lexer_read : RuleSet.ofText lexerText = .ok lexerRules) :
    ((∃ grammar, Grammar.ofTexts parserText lexerText = .ok grammar) ↔
        parserRules.Complements lexerRules) ∧
      ∀ violation, Grammar.ofTexts parserText lexerText = .error (.invalid violation) →
        (∃ kind before rule after,
          (parserRules.joined lexerRules parserText lexerText).rules kind =
              before ++ rule :: after ∧
            (before.map Rule.name).Nodup ∧ violation.line = rule.line ∧
              ((violation.cause = .duplicate kind rule.name ∧
                  rule.name ∈ before.map Rule.name) ∨
                (violation.cause = .parserFragment rule.name ∧ kind = .parser ∧
                  rule.isFragment = true))) ∧
          ∀ kind, ∀ rule ∈ (parserRules.joined lexerRules parserText lexerText).rules kind,
            rule.kind = kind ∧ rule.body.firstArityViolation? rule.name = none := by
  constructor
  · constructor
    · rintro ⟨grammar, accepted⟩
      obtain ⟨first, second, first_read, second_read, parser_kind, lexer_kind, valid, same⟩ :=
        ofTexts_eq_ok accepted
      obtain rfl := Except.ok.inj (parser_read.symm.trans first_read)
      obtain rfl := Except.ok.inj (lexer_read.symm.trans second_read)
      rw [same] at valid
      exact (validate_joined_eq_ok parser_read lexer_read parser_kind lexer_kind).mp valid
    · intro complements
      have valid := (validate_joined_eq_ok parser_read lexer_read complements.parser_kind
        complements.lexer_kind).mpr complements
      refine ⟨parserRules.joined lexerRules parserText lexerText, ?_⟩
      rw [ofTexts_eq_validated parser_read lexer_read complements.parser_kind
        complements.lexer_kind, validated, valid]
  · intro violation refused
    obtain ⟨parser_kind, lexer_kind⟩ := kinds_of_ofTexts_invalid parser_read lexer_read refused
    have readable := readable_joined parser_read lexer_read parser_kind lexer_kind
    rw [ofTexts_eq_validated parser_read lexer_read parser_kind lexer_kind] at refused
    refine ⟨?_, fun kind rule member => ⟨(readable kind rule member).kind_eq, ?_⟩⟩
    · obtain ⟨kind, found⟩ := firstViolation?_of_validated_eq_error refused
      obtain ⟨before, rule, after, split, flawless, line, cause⟩ :=
        exists_of_firstViolation?_eq_some found
      have listed : rule ∈ (parserRules.joined lexerRules parserText lexerText).rules kind := by
        simp [split]
      refine ⟨kind, before, rule, after, split, (firstViolation?_eq_none.mp flawless).2.1, line, ?_⟩
      simpa using (readable kind rule listed).violation?_cases cause
    · exact (Node.firstArityViolation?_eq_none rule.name).mpr
        (readable kind rule member).body.isElement.hasOperands

end Grammar

/-- A parser rule set with a negated set under a reluctant quantifier, and with a fragment. -/
def parserFragment : RuleSet where
  name := "P"
  kind := .parser
  rules := [
    { name := "r", kind := .parser, line := 1, body := Notation.choiceOf [[.mk (.star false)
        [Notation.choiceOf [[.mk .negation [.mk .set [.token "A", .token "B"]]]]]]] },
    { name := "q", kind := .parser, isFragment := true, line := 1
      body := Notation.choiceOf [[.mk .range [.literal "a", .literal "z"]]] }]

theorem ofText_parserFragment :
    RuleSet.ofText "parser grammar P \x7b r : ~(A | B)*? ; fragment q : 'a'..'z' ; \x7d" =
      .ok parserFragment := by
  decide +kernel

/-- A lexer rule set with one token. -/
def singleToken : RuleSet where
  name := "L"
  kind := .lexer
  rules := [
    { name := "A", kind := .lexer, line := 1, body := Notation.choiceOf [[.literal "a"]] }]

theorem ofText_singleToken :
    RuleSet.ofText "lexer grammar L \x7b A : \"a\" ; \x7d" = .ok singleToken := by
  decide +kernel

/-- A parser rule that is a fragment is refused, and none of its operators is to blame. -/
theorem Grammar.ofTexts_isOk_iff_parserFragment :
    Grammar.ofTexts "parser grammar P \x7b r : ~(A | B)*? ; fragment q : 'a'..'z' ; \x7d"
        "lexer grammar L \x7b A : \"a\" ; \x7d" = .error (.invalid ⟨1, .parserFragment "q"⟩) ∧
      (¬ ∃ grammar, Grammar.ofTexts
        "parser grammar P \x7b r : ~(A | B)*? ; fragment q : 'a'..'z' ; \x7d"
        "lexer grammar L \x7b A : \"a\" ; \x7d" = .ok grammar) ∧
        ∀ rule ∈ parserFragment.rules, rule.body.firstArityViolation? rule.name = none := by
  obtain ⟨accepted, reported⟩ :=
    Grammar.ofTexts_isOk_iff ofText_parserFragment ofText_singleToken
  have refused : Grammar.ofTexts
      "parser grammar P \x7b r : ~(A | B)*? ; fragment q : 'a'..'z' ; \x7d"
      "lexer grammar L \x7b A : \"a\" ; \x7d" = .error (.invalid ⟨1, .parserFragment "q"⟩) := by
    decide +kernel
  refine ⟨refused, fun some => ?_, fun rule member => ?_⟩
  · have whole := (accepted.mp some).not_fragment
    exact absurd whole (by decide)
  · exact ((reported _ refused).2 .parser rule member).2

end Rulebook
