import Rulebook.Grammar.Validity
import Rulebook.Proofs.Grammar.Preorder
import Rulebook.Rendering.Selection

/-!
# Operands

Every operator of a valid grammar has the operands that it needs, and keeps them when references to
excluded rules are removed.
-/

namespace Rulebook

/-- Some child must remain, and both ends of a range. -/
theorem NodeKind.survives_iff {kind : NodeKind} {remaining : List Node} :
    kind.survives remaining = true ↔ remaining ≠ [] ∧ (kind = range → remaining.length = 2) := by
  cases kind with
  | range =>
      simp only [survives, beq_iff_eq, forall_const]
      constructor
      · intro both
        exact ⟨List.ne_nil_of_length_pos (by omega), both⟩
      · exact And.right
  | _ => simp [survives]

/-- A node that keeps enough children keeps as many as its kind demands. -/
theorem NodeKind.length_of_survives {kind : NodeKind} {before after : List Node} {count : Nat}
    (demanded : kind.arity? = some count) (exact_before : before.length = count)
    (shorter : after.length ≤ before.length) (survives : kind.survives after = true) :
    after.length = count := by
  cases kind with
  | range =>
      simp only [NodeKind.arity?, Option.some.injEq] at demanded
      simp only [NodeKind.survives, beq_iff_eq] at survives
      omega
  | optional | plus | star | negation =>
      simp only [NodeKind.arity?, Option.some.injEq] at demanded
      have nonempty : 0 < after.length := by
        simpa [NodeKind.survives, List.length_pos_iff] using survives
      omega
  | terminal | ruleRef | charSet | predicate | placeholder =>
      simp only [NodeKind.arity?, NodeKind.isLeaf, if_true, Option.some.injEq] at demanded
      omega
  | sequence | alternative | block | set => simp [NodeKind.arity?, NodeKind.isLeaf] at demanded

namespace Node

/-- Does every node have the number of children that its kind demands? -/
def HasOperands (body : Node) : Prop :=
  body.Everywhere fun part => ∀ count ∈ part.kind.arity?, part.children.length = count

theorem hasOperands_mk {kind : NodeKind} {children : List Node} :
    HasOperands (mk kind children) ↔
      (∀ count ∈ kind.arity?, children.length = count) ∧
        ∀ child ∈ children, HasOperands child :=
  everywhere_mk

theorem hasOperands_block_nil : HasOperands (block []) := by
  simp [block, hasOperands_mk, NodeKind.arity?, NodeKind.isLeaf]

theorem arityViolation?_eq_none {rule : String} {node : Node} :
    arityViolation? rule node = none ↔
      ∀ count ∈ node.kind.arity?, node.children.length = count := by
  unfold arityViolation?
  cases node.kind.arity? with
  | none => simp
  | some count => simp

theorem firstArityViolation?_eq_none (rule : String) {body : Node} :
    firstArityViolation? rule body = none ↔ HasOperands body := by
  simp only [firstArityViolation?, List.findSome?_eq_none_iff, arityViolation?_eq_none, HasOperands,
    Everywhere]

/-- Pruning leaves every operator with its operands. -/
theorem HasOperands.prune {excluded : List String} {body kept : Node}
    (complete : HasOperands body) (pruned : Node.prune excluded body = some kept) :
    HasOperands kept := by
  induction body generalizing kept with
  | mk kind children induction =>
      obtain ⟨here, below⟩ := hasOperands_mk.mp complete
      rcases prune_cases pruned with ⟨rfl, rfl⟩ | ⟨survives, rfl⟩
      · exact complete
      · refine hasOperands_mk.mpr ⟨?_, ?_⟩
        · intro count demanded
          exact NodeKind.length_of_survives demanded (here count demanded)
            (List.length_filterMap_le _ _) survives
        · intro child member
          obtain ⟨original, present, kept_child⟩ := List.mem_filterMap.mp member
          exact induction original present (below original present) kept_child

end Node

/-- What remains of a rule has operands, even if nothing does. -/
theorem Rule.hasOperands_without {excluded : List String} {rule : Rule}
    (complete : rule.body.HasOperands) : (rule.without excluded).body.HasOperands := by
  unfold Rule.without
  cases pruned : rule.body.prune excluded with
  | none => exact Node.hasOperands_block_nil
  | some kept => exact complete.prune pruned

/-- A rule that remains is a declared rule, as it stands or without excluded references. -/
theorem mem_filterRules {excluded : List String} {rules : List Rule} {rule : Rule}
    (member : rule ∈ filterRules excluded rules) :
    ∃ declared ∈ rules, rule = declared ∨ rule = declared.without excluded := by
  unfold filterRules at member
  split at member
  · exact ⟨rule, member, .inl rfl⟩
  · obtain ⟨declared, present, rfl⟩ := List.mem_map.mp member
    exact ⟨declared, (List.mem_filter.mp present).1, .inr rfl⟩

/-- Does the rule by itself belong among the rules of a namespace? -/
structure Rule.BelongsTo (kind : RuleKind) (rule : Rule) : Prop where
  /-- It is of the kind of the namespace. -/
  kind_eq : rule.kind = kind
  /-- Parser rules are no fragments. -/
  not_fragment : kind = .parser → rule.isFragment = false
  /-- Its operators have their operands. -/
  operands : rule.body.HasOperands

theorem Rule.BelongsTo.without {kind : RuleKind} {rule : Rule} (belongs : rule.BelongsTo kind)
    (excluded : List String) : (rule.without excluded).BelongsTo kind where
  kind_eq := belongs.kind_eq
  not_fragment := belongs.not_fragment
  operands := Rule.hasOperands_without belongs.operands

theorem Rule.violation?_eq_none {kind : RuleKind} {earlier : List String} {rule : Rule} :
    rule.violation? kind earlier = none ↔ rule.name ∉ earlier ∧ rule.BelongsTo kind := by
  have belongs : rule.BelongsTo kind ↔
      rule.kind = kind ∧ (kind = .parser → rule.isFragment = false) ∧ rule.body.HasOperands :=
    ⟨fun ⟨filed, whole, operands⟩ => ⟨filed, whole, operands⟩,
      fun ⟨filed, whole, operands⟩ => ⟨filed, whole, operands⟩⟩
  rw [belongs, ← Node.firstArityViolation?_eq_none rule.name, Rule.violation?]
  split
  · simp_all
  · split
    · simp_all
    · split
      · simp_all
      · grind

/-- A namespace holds no violation if its names are distinct and every rule belongs there. -/
theorem firstViolation?_eq_none {kind : RuleKind} {earlier : List String} {rules : List Rule} :
    firstViolation? kind earlier rules = none ↔
      (∀ rule ∈ rules, rule.name ∉ earlier) ∧ (rules.map Rule.name).Nodup ∧
        ∀ rule ∈ rules, rule.BelongsTo kind := by
  induction rules generalizing earlier with
  | nil => simp [firstViolation?]
  | cons rule rules induction =>
      rw [firstViolation?]
      cases found : rule.violation? kind earlier with
      | some cause =>
          have violated : ¬ (rule.name ∉ earlier ∧ rule.BelongsTo kind) := by
            rw [← Rule.violation?_eq_none, found]
            simp
          simp only [reduceCtorEq, List.mem_cons, forall_eq_or_imp, false_iff]
          exact fun ⟨⟨fresh, _⟩, _, belongs, _⟩ => violated ⟨fresh, belongs⟩
      | none =>
          obtain ⟨fresh, belongs⟩ := Rule.violation?_eq_none.mp found
          dsimp only
          rw [induction]
          simp only [List.mem_cons, not_or, forall_eq_or_imp, List.map_cons, List.nodup_cons,
            List.mem_map]
          grind

/-- A grammar is valid if both namespaces hold distinct names and rules that belong there. -/
theorem Grammar.validate_eq_ok {grammar : Grammar} :
    grammar.validate = .ok () ↔
      ∀ kind, ((grammar.rules kind).map Rule.name).Nodup ∧
        ∀ rule ∈ grammar.rules kind, rule.BelongsTo kind := by
  have both : (∀ kind, firstViolation? kind [] (grammar.rules kind) = none) ↔
      grammar.validate = .ok () := by
    unfold Grammar.validate
    constructor
    · intro valid
      rw [show firstViolation? .parser [] grammar.parserRules = none from valid .parser,
        show firstViolation? .lexer [] grammar.lexerRules = none from valid .lexer]
    · intro valid kind
      split at valid
      · simp at valid
      · split at valid
        · simp at valid
        · cases kind <;> assumption
  rw [← both]
  simp [firstViolation?_eq_none]

/-- Every rule that is rendered is a declared rule, or one without references to excluded rules. -/
theorem Grammar.exists_declared_of_mem_renderedRules {grammar : Grammar} {settings : Settings}
    {kind : RuleKind} {rule : Rule} (member : rule ∈ grammar.renderedRules settings kind) :
    ∃ declared ∈ grammar.rules kind,
      rule = declared ∨ rule = declared.without settings.excludedRules := by
  cases kind with
  | parser => exact mem_filterRules member
  | lexer => exact mem_filterRules (List.mem_filter.mp member).1

/-- The rules that are rendered belong among the rules of their namespace. -/
theorem Grammar.belongsTo_of_mem_renderedRules {grammar : Grammar} {settings : Settings}
    {kind : RuleKind} {rule : Rule} (valid : grammar.validate = .ok ())
    (member : rule ∈ grammar.renderedRules settings kind) : rule.BelongsTo kind := by
  have belong := (validate_eq_ok.mp valid kind).2
  obtain ⟨declared, present, rfl | rfl⟩ := exists_declared_of_mem_renderedRules member
  · exact belong rule present
  · exact (belong declared present).without settings.excludedRules

/-- The rules that are rendered have the operands that they need. -/
theorem Grammar.hasOperands_of_mem_renderedRules {grammar : Grammar} {settings : Settings}
    {kind : RuleKind} {rule : Rule} (valid : grammar.validate = .ok ())
    (member : rule ∈ grammar.renderedRules settings kind) : rule.body.HasOperands :=
  (belongsTo_of_mem_renderedRules valid member).operands

/-- The rules that are rendered have the kinds of nodes that the declared rules have, and choices. -/
theorem Grammar.allKinds_of_mem_renderedRules {grammar : Grammar} {settings : Settings}
    {allowed : NodeKind → Prop} (choice : allowed .block) {kind : RuleKind} {rule : Rule}
    (all : ∀ declared ∈ grammar.rules kind, declared.body.AllKinds allowed)
    (member : rule ∈ grammar.renderedRules settings kind) : rule.body.AllKinds allowed := by
  obtain ⟨declared, present, rfl | rfl⟩ := exists_declared_of_mem_renderedRules member
  · exact all rule present
  · rw [Rule.without]
    cases kept : declared.body.prune settings.excludedRules with
    | some body => exact (all declared present).prune kept
    | none => exact Node.allKinds_mk.mpr ⟨choice, nofun⟩

end Rulebook
