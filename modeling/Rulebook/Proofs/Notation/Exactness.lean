import Rulebook.Proofs.Notation.ReadBack

/-!
# What the reader of rule sets can build

A rule set can be read from tokens exactly if its rules have the shape of the notation, and then it
is what its printed tokens are read as.
-/

namespace Rulebook
namespace Notation

/-! ### Printed rules are read back -/

section Alternatives

variable (line : Nat)

/-- A row of elements before a bar or a semicolon is read as an alternative. -/
theorem readAlternative_rowTokens {row : List Node} (each : ∀ node ∈ row, IsElement node)
    {symbol : Char} (closes : symbol = '|' ∨ symbol = ';') (rest : List Item) :
    readAlternative (TokenTree.items (rowTokens line row) ++ .leaf (.mark symbol false) :: rest) =
      .ok (Node.alternative row, .leaf (.mark symbol false) :: rest) := by
  have apart : Apart elementSigns (.leaf (.mark symbol false) :: rest) :=
    apart_mark (by rcases closes with rfl | rfl <;> decide) false rest
  have stop : endsInRule (.leaf (.mark symbol false) :: rest) = true := by
    rcases closes with rfl | rfl <;> rfl
  have back : ∀ node ∈ row, ReadsBack line node := fun node member =>
    (each node member).readsBack line
  have elements := readElements_rowTokens (fun _ element => element.endsInRule) each back apart stop
  have no_commands : skipCommandList (.leaf (.mark symbol false) :: rest) =
      .ok (.leaf (.mark symbol false) :: rest) := by
    rcases closes with rfl | rfl <;> simp [skipCommandList, startsWithPair]
  have no_label : skipAlternativeLabel (.leaf (.mark symbol false) :: rest) =
      .ok (.leaf (.mark symbol false) :: rest) := by
    rcases closes with rfl | rfl <;> simp [skipAlternativeLabel, startsWithMark]
  simp [readAlternative, elements, no_commands, no_label]

theorem readAlternatives_of_bar {items rest after : List Item} {node : Node} {nodes : List Node}
    (first : readAlternative items = .ok (node, .leaf (.mark '|' false) :: after))
    (later : readAlternatives after = .ok (nodes, rest)) :
    readAlternatives items = .ok (node :: nodes, rest) := by
  rw [readAlternatives]
  split <;> simp_all [startsWithMark]

/-- The alternatives of a rule are read back. -/
theorem readAlternatives_barred {rows : List (List Node)} (some : rows ≠ [])
    (each : ∀ row ∈ rows, ∀ node ∈ row, IsElement node) (rest : List Item) :
    readAlternatives (TokenTree.items (barred (rows.map (rowTokens line))) ++
        .leaf (.mark ';' false) :: rest) =
      .ok (rows.map Node.alternative, .leaf (.mark ';' false) :: rest) := by
  induction rows with
  | nil => exact (some rfl).elim
  | cons row rows induction =>
      rw [List.forall_mem_cons] at each
      cases rows with
      | nil =>
          have alone := readAlternative_rowTokens line each.1 (.inr rfl) rest
          rw [List.map_singleton, barred_singleton, readAlternatives]
          split <;> simp_all [startsWithMark]
      | cons next rows =>
          rw [List.map_cons, List.map_cons, barred_cons_cons, TokenTree.items_append,
            List.append_assoc]
          exact readAlternatives_of_bar (readAlternative_rowTokens line each.1 (.inl rfl) _)
            (induction (by simp) each.2)

end Alternatives

/-- The items of a rule: the word of a fragment, the name and the alternatives. -/
theorem items_ruleTokens {rule : Rule} {rows : List (List Node)} (body : rule.body = choiceOf rows)
    (rest : List Item) :
    TokenTree.items rule.tokens ++ rest =
      (if rule.isFragment then [.leaf (.identifier "fragment" rule.line)] else []) ++
        .leaf (.identifier rule.name rule.line) :: .leaf (.mark ':' false) ::
          (TokenTree.items (barred (rows.map (rowTokens rule.line))) ++
            .leaf (.mark ';' false) :: rest) := by
  have children : rule.body.children.map (Node.tokens rule.line) =
      rows.map (rowTokens rule.line) := by
    rw [body]
    exact map_tokens_children rule.line rows
  rw [Rule.tokens, children]
  cases rule.isFragment <;> simp [TokenTree.items_eq]

/-- The tokens of a rule are read as the rule, in any mode. -/
theorem readRule_tokens {kind : RuleKind} {rule : Rule} (readable : rule.Readable kind)
    (mode : String) (rest : List Item) :
    readRule kind mode (TokenTree.items rule.tokens ++ rest) =
      .ok ({ rule with mode }, rest) := by
  obtain ⟨-, same_kind, rows, some, body, each⟩ := readable
  have alternatives := readAlternatives_barred rule.line some each rest
  have whole : Node.block (rows.map Node.alternative) = rule.body := body.symm
  rw [items_ruleTokens body, ← same_kind]
  cases fragment : rule.isFragment with
  | true => simp [readRule, startsWithFragment, startsWithWord, startsWithIdentifier,
      readIdentifier, readMark, startsWithMark, alternatives, whole]
  | false => simp [readRule, startsWithFragment, startsWithIdentifier, readIdentifier, readMark,
      startsWithMark, alternatives, whole]

theorem isEmpty_ruleTokens (rule : Rule) (rest : List Item) :
    (TokenTree.items rule.tokens ++ rest).isEmpty = false := by
  rw [Rule.tokens]
  cases rule.isFragment <;> simp [TokenTree.items_eq]

/-- No rule is taken for a mode: what follows its name is a colon and no bracket. -/
theorem modeAtFront?_tokens {kind : RuleKind} {rule : Rule} (readable : rule.Readable kind)
    (rest : List Item) : modeAtFront? (TokenTree.items rule.tokens ++ rest) = none := by
  obtain ⟨-, -, rows, -, body, -⟩ := readable
  rw [items_ruleTokens body]
  cases rule.isFragment <;> simp [modeAtFront?]

theorem readModeRules_tokens {kind : RuleKind} {rule : Rule} (readable : rule.Readable kind)
    (mode : String) :
    readModeRules kind mode (TokenTree.items rule.tokens) = .ok [{ rule with mode }] := by
  have single := readRule_tokens readable mode []
  have present := isEmpty_ruleTokens rule []
  have done : readModeRules kind mode [] = .ok [] := by simp [readModeRules]
  rw [List.append_nil] at single present
  rw [readModeRules, present]
  simp only [Bool.false_eq_true, if_false]
  split <;> simp_all

/-! ### Printed rule sets are read back -/

theorem readRules_of_readRule {kind : RuleKind} {items rest : List Item} {rule : Rule}
    {rules : List Rule} (present : items.isEmpty = false) (no_mode : modeAtFront? items = none)
    (first : readRule kind defaultMode items = .ok (rule, rest))
    (later : readRules kind rest = .ok rules) : readRules kind items = .ok (rule :: rules) := by
  rw [readRules, present]
  simp only [Bool.false_eq_true, if_false]
  split
  · simp_all
  · split <;> simp_all

theorem readRules_of_modeAtFront? {items rest : List Item} {mode : String}
    {content : List TokenTree} {rules others : List Rule}
    (front : modeAtFront? items = some (mode, content, rest))
    (inside : readModeRules .lexer mode (TokenTree.items content) = .ok rules)
    (later : readRules .lexer rest = .ok others) :
    readRules .lexer items = .ok (rules ++ others) := by
  have present : items.isEmpty = false := by
    cases items with
    | nil => simp [modeAtFront?] at front
    | cons => rfl
  rw [readRules, present]
  simp only [Bool.false_eq_true, if_false]
  split <;> simp_all

/-- The declarations of well-shaped rules are read as the rules. -/
theorem readRules_declarations {kind : RuleKind} {rules : List Rule}
    (shaped : ∀ rule ∈ rules, rule.WellShaped kind) :
    readRules kind (TokenTree.items (rules.flatMap Rule.declaration)) = .ok rules := by
  induction rules with
  | nil => simp [TokenTree.items, readRules]
  | cons rule rules induction =>
      rw [List.forall_mem_cons] at shaped
      have later := induction shaped.2
      have readable := shaped.1.toReadable
      rw [List.flatMap_cons, TokenTree.items_append]
      by_cases unmoded : rule.mode = "DEFAULT_MODE"
      · have whole : { rule with mode := defaultMode } = rule := by
          rw [show defaultMode = rule.mode from unmoded.symm]
        have first := readRule_tokens readable defaultMode
          (TokenTree.items (rules.flatMap Rule.declaration))
        rw [whole] at first
        rw [Rule.declaration, if_pos unmoded]
        exact readRules_of_readRule (isEmpty_ruleTokens rule _) (modeAtFront?_tokens readable _) first
          later
      · obtain ⟨rfl, -, allowed⟩ := shaped.1.mode unmoded
        rw [Rule.declaration, if_neg unmoded]
        refine readRules_of_modeAtFront? ?_ (readModeRules_tokens readable rule.mode) later
        have unreserved : rule.mode ∉ reservedWords := allowed
        simp [TokenTree.items, TokenTree.item, modeAtFront?, unreserved]

/-- The tokens of a well-shaped rule set are read as the rule set. -/
theorem ofTokens_tokens {set : RuleSet} (shaped : set.WellShaped) :
    RuleSet.ofTokens set.tokens = .ok set := by
  have rules := readRules_declarations shaped.rules
  have opening (rest : List Item) :
      readKind (.leaf (.identifier (RuleSet.opening set.kind) 1) :: rest) = .ok (set.kind, rest) := by
    cases set.kind <;> rfl
  simp [RuleSet.ofTokens, RuleSet.tokens, TokenTree.items, TokenTree.item, readItems, opening,
    readGrammarWord, startsWithWord, readIdentifier, readBraces, rules, bind, Except.bind]

/-! ### Names among the tokens of a rule set -/

theorem isIdentifier_word : ∀ name ∈ ["parser", "lexer", "grammar", "mode", "fragment"],
    IsIdentifier name := by
  decide +kernel

theorem named_ruleTokens {kind : RuleKind} {rule : Rule} (readable : rule.Readable kind) :
    ∀ tree ∈ rule.tokens, tree.Named := by
  have alternatives : ∀ tree ∈ barred (rule.body.children.map (Node.tokens rule.line)),
      tree.Named := by
    have kinds := readable.body.isElement.allKinds_isReadable
    cases body : rule.body with
    | mk kind children =>
        rw [body] at kinds
        exact named_barred (List.forall_mem_map.mpr fun child member =>
          named_tokens ((Node.allKinds_mk.mp kinds).2 child member) rule.line)
  have word_named : ∀ tree ∈ (if rule.isFragment then [word rule.line "fragment"] else []),
      tree.Named := by
    split
    · exact List.forall_mem_singleton.mpr (named_word (isIdentifier_word _ (by simp)) rule.line)
    · simp
  refine List.forall_mem_append.mpr ⟨word_named, List.forall_mem_cons.mpr ⟨?_, ?_⟩⟩
  · exact named_word readable.name rule.line
  · refine List.forall_mem_cons.mpr ⟨named_sign ':', List.forall_mem_append.mpr ⟨alternatives, ?_⟩⟩
    exact List.forall_mem_singleton.mpr (named_sign ';')

theorem named_declaration {kind : RuleKind} {rule : Rule} (shaped : rule.WellShaped kind) :
    ∀ tree ∈ rule.declaration, tree.Named := by
  unfold Rule.declaration
  split
  · exact named_ruleTokens shaped.toReadable
  · rename_i moded
    obtain ⟨-, identifier, -⟩ := shaped.mode moded
    simp only [List.forall_mem_cons]
    exact ⟨named_word (isIdentifier_word _ (by simp)) rule.line, named_word identifier rule.line,
      .group (named_ruleTokens shaped.toReadable), nofun⟩

theorem named_setTokens {set : RuleSet} (shaped : set.WellShaped) :
    ∀ tree ∈ set.tokens, tree.Named := by
  have kind_word : IsIdentifier (RuleSet.opening set.kind) :=
    isIdentifier_word _ (by cases set.kind <;> simp [RuleSet.opening])
  simp only [RuleSet.tokens, List.forall_mem_cons]
  refine ⟨named_word kind_word 1, named_word (isIdentifier_word _ (by simp)) 1,
    named_word shaped.name 1, .group (List.forall_mem_flatMap.mpr fun rule member => ?_), nofun⟩
  exact named_declaration (shaped.rules rule member)

end Notation

/-- The rule sets that are read from tokens are the well-shaped ones, and each of them is what its
printed tokens are read as. -/
theorem RuleSet.ofTokens_exact :
    (∀ (tokens : List Notation.TokenTree) (set : RuleSet), (∀ tree ∈ tokens, tree.Named) →
        RuleSet.ofTokens tokens = .ok set → set.WellShaped) ∧
      ∀ set : RuleSet, set.WellShaped →
        (∀ tree ∈ set.tokens, tree.Named) ∧ RuleSet.ofTokens set.tokens = .ok set :=
  ⟨fun _ _ named read => Notation.wellShaped_of_readItems (Notation.sound_items named) read,
    fun _ shaped => ⟨Notation.named_setTokens shaped, Notation.ofTokens_tokens shaped⟩⟩

/-- A lexer rule set with a fragment in a mode, whose alternatives nest a reluctant quantifier, a
negated set, a negated choice that is no set, a range and a condition. -/
def nestedRules : RuleSet where
  name := "L"
  kind := .lexer
  rules := [{ name := "A"
              kind := .lexer
              isFragment := true
              mode := "Inside"
              line := 3
              body := .mk .block [
                .mk .alternative [
                  .mk (.star false) [.mk .block [
                    .mk .alternative [.mk .negation [.mk .set [
                      .mk (.terminal (.literal "x")) [], .mk (.charSet "a-z") [],
                      .mk (.terminal (.token "C")) []]]],
                    .mk .alternative [.mk .negation [.mk .block [
                      .mk .alternative [.mk (.ruleRef "b") []]]]]]],
                  .mk .predicate []],
                .mk .alternative [
                  .mk .range [.mk (.terminal (.literal "0")) [], .mk (.terminal (.literal "9")) []],
                  .mk .placeholder []]] }]

namespace Notation

theorem isBody_nestedRules : ∀ rule ∈ nestedRules.rules, IsBody rule.body := by
  have identifier : ∀ name ∈ ["C", "b"], IsIdentifier name := by
    decide +kernel
  have token : IsElement (.mk (.terminal (.token "C")) []) :=
    .token (identifier "C" (by simp)) (rfl : "C".toList = ['C']) (by decide +kernel)
  have ruleRef : IsElement (.mk (.ruleRef "b") []) :=
    .ruleRef (identifier "b" (by simp)) (rfl : "b".toList = ['b']) (by decide +kernel)
  have negated_set : IsElement (.mk .negation [.mk .set [.mk (.terminal (.literal "x")) [],
      .mk (.charSet "a-z") [], .mk (.terminal (.token "C")) []]]) := by
    apply IsElement.negatedSet
    · simp
    · simp [IsElement.literal, IsElement.charSet, token]
    · simp [IsMember.literal, IsMember.charSet, IsMember.token]
  have negated_choice : IsElement (.mk .negation [choiceOf [[.mk (.ruleRef "b") []]]]) := by
    apply IsElement.negation
    · exact .choice (by simp) (by simpa using ruleRef)
    · exact .inr rfl
    · rintro (_ | ⟨member, _ | ⟨second, later⟩⟩) single same
      · simp [choiceOf] at same
      · -- A rule reference is no member of a set.
        have only : IsMember (.mk (.ruleRef "b") []) := by
          simp only [choiceOf, List.map_cons, List.map_nil, Node.mk.injEq, List.cons.injEq, and_true,
            true_and] at same
          exact same ▸ single member List.mem_cons_self
        cases only
      · simp [choiceOf] at same
  have reluctant : IsElement (.mk (.star false) [choiceOf [
      [.mk .negation [.mk .set [.mk (.terminal (.literal "x")) [], .mk (.charSet "a-z") [],
        .mk (.terminal (.token "C")) []]]],
      [.mk .negation [choiceOf [[.mk (.ruleRef "b") []]]]]]]) :=
    .quantified rfl (by simp) (by simp [negated_set, negated_choice])
  have range : IsElement
      (.mk .range [.mk (.terminal (.literal "0")) [], .mk (.terminal (.literal "9")) []]) :=
    .range (.literal "0") (.literal "9") rfl rfl
  refine List.forall_mem_singleton.mpr (IsBody.cons ?_ (isBody_single ?_))
  · exact List.forall_mem_cons.mpr ⟨reluctant, List.forall_mem_singleton.mpr .predicate⟩
  · exact List.forall_mem_cons.mpr ⟨range, List.forall_mem_singleton.mpr .placeholder⟩

end Notation

theorem wellShaped_nestedRules : nestedRules.WellShaped := by
  have name : ∀ name ∈ ["L", "A", "Inside"], Notation.IsIdentifier name := by
    decide +kernel
  refine ⟨name "L" (by simp), fun rule member =>
    ⟨⟨?_, ?_, Notation.isBody_nestedRules rule member⟩, ?_⟩⟩
  all_goals rw [List.mem_singleton.mp member]
  · exact name "A" (by simp)
  · rfl
  · exact fun _ => ⟨rfl, name "Inside" (by simp), by decide⟩

theorem RuleSet.ofTokens_exact_nestedRules :
    nestedRules.WellShaped ∧ (∀ tree ∈ nestedRules.tokens, tree.Named) ∧
      RuleSet.ofTokens nestedRules.tokens = .ok nestedRules := by
  have back := RuleSet.ofTokens_exact.2 nestedRules wellShaped_nestedRules
  exact ⟨RuleSet.ofTokens_exact.1 _ _ back.1 back.2, back⟩

end Rulebook
