import Rulebook.Grammar.Inlining
import Rulebook.Proofs.Grammar.Collapse
import Rulebook.Proofs.Notation.Accepted

/-!
# What stands behind an inlined token

A token is shown as a spelling when its rule leads to a single literal.  Nothing else that takes part
in a level stands beside that literal, but quantifiers around it and negations and ranges next to it
are passed over.
-/

namespace Rulebook

namespace NodeKind

/-- Kinds that only hold other nodes together. -/
def isGrouping : NodeKind → Bool
  | sequence | alternative | block | set => true
  | _ => false

/-- Kinds that are passed over when a level is measured. -/
def isPassedOver : NodeKind → Bool
  | negation | range | predicate | placeholder => true
  | _ => false

/-- Kinds through which a rule leads to its literal. -/
def isWrapper : NodeKind → Bool
  | sequence | alternative | block | set | optional _ | plus _ | star _ => true
  | _ => false

theorem isSignificant_eq_not_isPassedOver {kind : NodeKind} (plain : kind ≠ sequence) :
    kind.isSignificant = !kind.isPassedOver := by
  cases kind <;> first | exact (plain rfl).elim | rfl

end NodeKind

/-! ### Simple bodies -/

namespace Node

/-- Does a node lead to another one along first children, through groups and quantifiers only? -/
inductive BeginsWith (target : Node) : Node → Prop where
  /-- The node itself. -/
  | here : BeginsWith target target
  /-- What the first child of a group or a quantifier begins with. -/
  | first {kind : NodeKind} {first : Node} {later : List Node} (wraps : kind.isWrapper = true)
      (below : BeginsWith target first) : BeginsWith target (mk kind (first :: later))

theorem BeginsWith.mem_preorder {target body : Node} (begins : BeginsWith target body) :
    target ∈ body.preorder := by
  induction begins with
  | here =>
      obtain ⟨kind, children⟩ := target
      exact List.mem_cons_self
  | first _ _ induction => exact List.mem_cons_of_mem _ (List.mem_append_left _ induction)

/-- A simple node is not passed over where it stands. -/
theorem isPassedOver_eq_false_of_isSimple {node : Node} (complete : node.HasOperands)
    (simple : node.isSimple = true) : node.kind.isPassedOver = false := by
  obtain ⟨kind, children⟩ := node
  have here := (hasOperands_mk.mp complete).1
  rw [isSimple] at simple
  cases kind with
  | negation | range => simp at simple
  | predicate | placeholder =>
      have childless : children = [] := by simpa using here 0 rfl
      simp [childless, leadsToLiteral, crowds] at simple
  | _ => rfl

/-- On a level that is not crowded only the first node remains, if it is counted. -/
theorem filter_of_not_crowds {first : Node} {later : List Node}
    (plain : ∀ node ∈ first :: later, node.kind ≠ .sequence)
    (roomy : crowds (first :: later) = false) (counted : first.kind.isPassedOver = false) :
    (first :: later).filter (fun node => !node.kind.isPassedOver) = [first] := by
  have measured : (first :: later).filter (fun node => !node.kind.isPassedOver) =
      (first :: later).filter fun node => node.kind.isSignificant :=
    List.filter_congr fun node member =>
      (NodeKind.isSignificant_eq_not_isPassedOver (plain node member)).symm
  rw [measured]
  have significant : first.kind.isSignificant = true := by
    rw [NodeKind.isSignificant_eq_not_isPassedOver (plain first List.mem_cons_self), counted]
    rfl
  simp only [crowds, List.filter_cons, significant, if_true, List.length_cons,
    decide_eq_false_iff_not] at roomy
  have none : later.filter (fun node => node.kind.isSignificant) = [] :=
    List.length_eq_zero_iff.mp (by omega)
  rw [List.filter_cons, if_pos significant, none]

/-- A simple body, without the nodes that are passed over and without wrappers, is a literal, with which
it begins. -/
theorem stripped_of_isSimple {body : Node} (complete : body.HasOperands)
    (plain : body.AllKinds (· ≠ .sequence)) (simple : body.isSimple = true) :
    ∃ value, body.stripped NodeKind.isPassedOver NodeKind.isWrapper = literal value ∧
      BeginsWith (literal value) body := by
  induction body with
  | mk kind children induction =>
      obtain ⟨here, below⟩ := hasOperands_mk.mp complete
      obtain ⟨-, plain_below⟩ := allKinds_mk.mp plain
      rw [isSimple] at simple
      split at simple
      · simp at simple
      · rename_i counted
        split at simple
        · simp at simple
        · rename_i roomy
          cases children with
          | nil =>
              cases kind with
              | terminal shown =>
                  cases shown with
                  | literal value =>
                      refine ⟨value, ?_, .here⟩
                      simp [stripped, strippedAll, literal, leaf]
                  | token name => simp [leadsToLiteral] at simple
              | _ => simp [leadsToLiteral] at simple
          | cons first later =>
              rw [leadsToLiteral] at simple
              obtain ⟨value, same, begins⟩ := induction first List.mem_cons_self
                (below first List.mem_cons_self) (plain_below first List.mem_cons_self) simple
              have kinds : ∀ node ∈ first :: later, node.kind ≠ .sequence := fun node member =>
                (plain_below node member).kind
              have alone := filter_of_not_crowds kinds (by simpa using roomy)
                (isPassedOver_eq_false_of_isSimple (below first List.mem_cons_self) simple)
              have wraps : kind.isWrapper = true := by
                cases kind with
                | terminal | ruleRef | charSet | predicate | placeholder => simpa using here 0 rfl
                | negation | range => simp at counted
                | _ => rfl
              refine ⟨value, ?_, .first wraps begins⟩
              simp only [stripped, strippedAll_eq, alone, List.map_cons, List.map_nil, wraps, if_true,
                same]

end Node

theorem Rule.soleSpelling?_eq_some {rule : Rule} {spelling : String}
    (sole : rule.soleSpelling? = some spelling) :
    rule.body.isSimple = true ∧ spelling ∈ rule.body.preorder.filterMap Node.spelling? ∧
      ∀ value ∈ rule.body.preorder.filterMap Node.spelling?, value = spelling := by
  unfold Rule.soleSpelling? at sole
  split at sole
  · rename_i simple
    split at sole
    · rename_i only spellings
      rw [Option.some.inj sole] at spellings
      have listed (value : String) : value ∈ rule.body.spellings ↔ value = spelling := by
        rw [spellings, List.mem_singleton]
      refine ⟨simple, List.mem_eraseDups.mp ((listed spelling).mpr rfl), fun value member => ?_⟩
      exact (listed value).mp (List.mem_eraseDups.mpr member)
    · simp at sole
  · simp at sole

theorem Inlining.run_resolve_of_none {grammar : Grammar} {settings : Settings} {token : String}
    (keeps : grammar.inlineSpelling? settings token = none) (inlining : Inlining) :
    (Inlining.resolve grammar settings token).run inlining = (none, inlining) := by
  rw [Inlining.resolve, keeps]
  rfl

theorem Inlining.run_resolve_of_some {grammar : Grammar} {settings : Settings}
    {token spelling : String} (inlined : grammar.inlineSpelling? settings token = some spelling)
    (inlining : Inlining) :
    (Inlining.resolve grammar settings token).run inlining =
      (some spelling, inlining.absorb token) := by
  rw [Inlining.resolve, inlined]
  rfl

/-- A token is shown as a spelling only if its rule has no other. -/
theorem Inlining.resolve_eq_some {grammar : Grammar} {settings : Settings} {token spelling : String}
    {inlining : Inlining}
    (shown : ((Inlining.resolve grammar settings token).run inlining).1 = some spelling) :
    ∃ rule, grammar.rule? .lexer token = some rule ∧ rule.soleSpelling? = some spelling := by
  have inlined : grammar.inlineSpelling? settings token = some spelling := by
    cases found : grammar.inlineSpelling? settings token with
    | none => simp [Inlining.run_resolve_of_none found] at shown
    | some value =>
        rw [Inlining.run_resolve_of_some found] at shown
        exact shown
  unfold Grammar.inlineSpelling? at inlined
  split at inlined
  · simp at inlined
  · exact Option.bind_eq_some_iff.mp inlined

/-- In a grammar that is read from two texts, the rule of a token that is shown as a spelling is that
spelling: without negations, ranges and nodes that render to nothing, and without the groups and
quantifiers around single nodes, its body is the literal.  The body begins with the literal, so that what
is left out stands behind it, and it has no other spelling anywhere. -/
theorem Grammar.stripped_body_of_resolve {parserText lexerText : String} {grammar : Grammar}
    (read : Grammar.ofTexts parserText lexerText = .ok grammar) (settings : Settings)
    (inlining : Inlining) (token spelling : String)
    (shown : ((Inlining.resolve grammar settings token).run inlining).1 = some spelling) :
    ∃ rule, grammar.rule? .lexer token = some rule ∧
      rule.body.stripped NodeKind.isPassedOver NodeKind.isWrapper =
          .mk (.terminal (.literal spelling)) [] ∧
        Node.BeginsWith (.mk (.terminal (.literal spelling)) []) rule.body ∧
          ∀ part ∈ rule.body.preorder, ∀ value, part.kind = .terminal (.literal value) →
            value = spelling := by
  obtain ⟨rule, found, sole⟩ := Inlining.resolve_eq_some shown
  obtain ⟨simple, -, only⟩ := Rule.soleSpelling?_eq_some sole
  have listed : rule ∈ grammar.rules .lexer := List.mem_of_find?_eq_some found
  have operands : rule.body.HasOperands :=
    ((Grammar.validate_eq_ok.mp (Grammar.validate_of_ofTexts read) .lexer).2 rule listed).operands
  have plain : rule.body.AllKinds (· ≠ .sequence) :=
    (Grammar.readable_of_ofTexts read .lexer rule listed).body.isElement.allKinds_ne_sequence
  have single : ∀ part ∈ rule.body.preorder, ∀ value, part.kind = .terminal (.literal value) →
      value = spelling := fun part member value kind => only value
    (List.mem_filterMap.mpr ⟨part, member, by rw [Node.spelling?, kind]⟩)
  obtain ⟨value, same, begins⟩ := Node.stripped_of_isSimple operands plain simple
  obtain rfl : value = spelling := single _ begins.mem_preorder value rfl
  exact ⟨rule, found, same, begins, single⟩

/-- The grammar of a token that is an optional letter before a negated set. -/
def optionalLetter : Grammar :=
  { parserRules := [{
      name := "r", kind := .parser, line := 1
      body := Node.block [Node.alternative [Node.token "A"]] }]
    lexerRules := [{
      name := "A", kind := .lexer, line := 1
      body := Node.block [Node.alternative [
        .mk (.optional true) [Node.block [Node.alternative [Node.literal "a"]]],
        .mk .negation [Node.leaf (.charSet "x")]]] }]
    parserSource := ["parser grammar P \x7b r : A ; \x7d"]
    lexerSource := ["lexer grammar L \x7b A : \"a\"? ~[\"x\"] ; \x7d"] }

theorem ofTexts_optionalLetter :
    Grammar.ofTexts "parser grammar P \x7b r : A ; \x7d"
      "lexer grammar L \x7b A : \"a\"? ~[\"x\"] ; \x7d" = .ok optionalLetter := by
  decide +kernel

theorem resolve_optionalLetter :
    ((Inlining.resolve optionalLetter {} "A").run {}).1 = some "a" := by
  decide +kernel

/-- The rule of the letter is the letter, with which it begins, once its quantifier and the negation
behind it are left out. -/
theorem stripped_body_of_optionalLetter :
    ((Inlining.resolve optionalLetter {} "A").run {}).1 = some "a" ∧
      ∃ rule, optionalLetter.rule? .lexer "A" = some rule ∧
        rule.body.stripped NodeKind.isPassedOver NodeKind.isWrapper =
            .mk (.terminal (.literal "a")) [] ∧
          Node.BeginsWith (.mk (.terminal (.literal "a")) []) rule.body ∧
            ∀ part ∈ rule.body.preorder, ∀ value, part.kind = .terminal (.literal value) →
              value = "a" :=
  ⟨resolve_optionalLetter,
    Grammar.stripped_body_of_resolve ofTexts_optionalLetter {} {} "A" "a" resolve_optionalLetter⟩

/-- A token can be shown as a spelling although its rule is more than the groups around it. -/
theorem not_forall_stripped_body_eq_literal :
    ¬ ∀ (parserText lexerText : String) (grammar : Grammar),
      Grammar.ofTexts parserText lexerText = .ok grammar →
        ∀ (settings : Settings) (inlining : Inlining) (token spelling : String),
          ((Inlining.resolve grammar settings token).run inlining).1 = some spelling →
            ∃ rule, grammar.rule? .lexer token = some rule ∧
              rule.body.stripped NodeKind.isSilent NodeKind.isGrouping =
                Node.literal spelling := by
  intro exact_body
  obtain ⟨rule, found, same⟩ :=
    exact_body _ _ _ ofTexts_optionalLetter {} {} "A" "a" resolve_optionalLetter
  have declared : optionalLetter.rule? .lexer "A" = optionalLetter.lexerRules.head? := by
    decide +kernel
  rw [declared] at found
  have whole : rule = optionalLetter.lexerRules[0] := (Option.some.inj found).symm
  revert same
  rw [whole]
  decide +kernel

end Rulebook
