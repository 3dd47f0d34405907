import Rulebook.Proofs.Grammar.Tips

/-!
# Exclusion in steps

To exclude some names and then others is to exclude all of them at once.  A node that goes in the first
step would go in a single one, for its children only become fewer; a node that stays has in the second
step the children that are left of its children.
-/

namespace Rulebook

/-- What is enough for a node is enough before more children go, if the node had no more than its kind
demands. -/
theorem NodeKind.survives_of_length_le {kind : NodeKind} {before after : List Node}
    (bounded : ∀ count ∈ kind.arity?, before.length ≤ count) (shorter : after.length ≤ before.length)
    (survives : kind.survives after = true) : kind.survives before = true := by
  obtain ⟨some, both⟩ := survives_iff.mp survives
  have nonempty : 0 < after.length := List.length_pos_iff.mpr some
  refine survives_iff.mpr ⟨List.ne_nil_of_length_pos (nonempty.trans_le shorter), ?_⟩
  rintro rfl
  have two : after.length = 2 := both rfl
  have bound : before.length ≤ 2 := bounded 2 rfl
  omega

namespace Node

variable {first second : List String} {body : Node}

theorem refersTo_append (first second : List String) (node : Node) :
    refersTo (first ++ second) node = (refersTo first node || refersTo second node) := by
  unfold refersTo
  cases node.referencedName? with
  | none => rfl
  | some name => exact List.contains_append

theorem refersTo_congr (same : ∀ name, name ∈ first ↔ name ∈ second) (node : Node) :
    refersTo first node = refersTo second node := by
  unfold refersTo
  cases node.referencedName? with
  | none => rfl
  | some name => simp [same]

/-- A node that refers to an excluded name goes, whatever is below it. -/
theorem prune_of_refersTo {kind : NodeKind} {children : List Node}
    (refers : refersTo first (mk kind children) = true) (others : List Node) :
    prune first (mk kind others) = none := by
  rw [prune_mk, refersTo_mk first kind others children, refers, if_pos rfl]

/-- A node above others that refers to nothing excluded stays if enough of its children do. -/
theorem prune_of_ne_nil {kind : NodeKind} {children others : List Node}
    (elsewhere : refersTo first (mk kind others) = false) (parent : children ≠ []) :
    prune first (mk kind children) =
      if kind.survives (children.filterMap (prune first)) then
        some (mk kind (children.filterMap (prune first)))
      else none := by
  rw [prune_mk, refersTo_mk first kind children others, elsewhere, if_neg Bool.false_ne_true,
    if_neg parent]

/-- If more children of a node go later, then the node goes as if all had gone at once. -/
theorem bind_prune_remaining {kind : NodeKind} {remaining others : List Node}
    (elsewhere : refersTo second (mk kind others) = false)
    (bounded : ∀ count ∈ kind.arity?, remaining.length ≤ count) :
    (if kind.survives remaining then some (mk kind remaining) else none).bind (prune second) =
      if kind.survives (remaining.filterMap (prune second)) then
        some (mk kind (remaining.filterMap (prune second)))
      else none := by
  cases enough : kind.survives remaining with
  | true =>
      rw [if_pos rfl, Option.bind_some,
        prune_of_ne_nil elsewhere (NodeKind.survives_iff.mp enough).1]
  | false =>
      have few : ¬ kind.survives (remaining.filterMap (prune second)) = true := by
        intro survives
        rw [NodeKind.survives_of_length_le bounded (List.length_filterMap_le _ _) survives] at enough
        exact Bool.noConfusion enough
      rw [if_neg Bool.false_ne_true, if_neg few, Option.bind_none]

/-- To prune twice is to prune once of both. -/
theorem prune_prune (complete : body.HasOperands) (first second : List String) :
    (prune first body).bind (prune second) = prune (first ++ second) body := by
  induction body with
  | mk kind children induction =>
      obtain ⟨demanded, below⟩ := hasOperands_mk.mp complete
      -- What is left in the second step is what is left of the children in a single step.
      have row : (children.filterMap (prune first)).filterMap (prune second) =
          children.filterMap (prune (first ++ second)) := by
        rw [List.filterMap_filterMap]
        exact List.filterMap_congr fun child member => induction child member (below child member)
      cases early : refersTo first (mk kind children) with
      | true =>
          have gone : refersTo (first ++ second) (mk kind children) = true := by
            rw [refersTo_append, early, Bool.true_or]
          rw [prune_of_refersTo early, prune_of_refersTo gone, Option.bind_none]
      | false =>
          cases late : refersTo second (mk kind children) with
          | true =>
              have gone : refersTo (first ++ second) (mk kind children) = true := by
                rw [refersTo_append, late, Bool.or_true]
              rw [prune_of_refersTo gone, Option.bind_eq_none_iff]
              intro kept pruned
              rw [eq_of_prune pruned, prune_of_refersTo late]
          | false =>
              have neither : refersTo (first ++ second) (mk kind children) = false := by
                rw [refersTo_append, early, late, Bool.or_false]
              by_cases childless : children = []
              · subst childless
                simp [prune_mk, early, late, neither]
              · rw [prune_of_ne_nil early childless, prune_of_ne_nil neither childless, ← row]
                exact bind_prune_remaining late fun count demand =>
                  (List.length_filterMap_le _ _).trans_eq (demanded count demand)

/-- What remains depends on which names are excluded only. -/
theorem prune_congr (same : ∀ name, name ∈ first ↔ name ∈ second) (body : Node) :
    prune first body = prune second body := by
  induction body with
  | mk kind children induction =>
      rw [prune_mk, prune_mk, refersTo_congr same, List.filterMap_congr induction]

end Node

/-! ### Rules -/

variable {first second : List String}

theorem Rule.without_without {rule : Rule} (complete : rule.body.HasOperands)
    (first second : List String) :
    (rule.without first).without second = rule.without (first ++ second) := by
  have twice := Node.prune_prune complete first second
  rw [without, without, without, ← twice]
  cases rule.body.prune first with
  | some kept => rfl
  | none =>
      -- An empty choice stands for the body that is gone, and has nothing to lose.
      rfl

theorem Rule.without_congr (same : ∀ name, name ∈ first ↔ name ∈ second) (rule : Rule) :
    rule.without first = rule.without second := by
  rw [without, without, Node.prune_congr same]

/-- Which rules remain depends on which names are excluded only. -/
theorem filterRules_congr (same : ∀ name, name ∈ first ↔ name ∈ second) (rules : List Rule) :
    filterRules first rules = filterRules second rules := by
  have alike : first.isEmpty = second.isEmpty := by
    rw [Bool.eq_iff_iff, List.isEmpty_iff, List.isEmpty_iff, List.eq_nil_iff_forall_not_mem,
      List.eq_nil_iff_forall_not_mem]
    exact forall_congr' fun name => not_congr (same name)
  have listed : (fun rule : Rule => !first.contains rule.name) =
      fun rule => !second.contains rule.name := by
    funext rule
    simp [same]
  have pruned : Rule.without first = Rule.without second := funext (Rule.without_congr same)
  rw [filterRules, filterRules, alike, listed, pruned]

theorem filterRules_of_ne_nil (some : first ≠ []) (rules : List Rule) :
    filterRules first rules =
      (rules.filter fun rule => !first.contains rule.name).map (Rule.without first) := by
  rw [filterRules, if_neg (mt List.isEmpty_iff.mp some)]

/-- To exclude in two steps is to exclude in one, also if a step excludes nothing and keeps the rules as
they are. -/
theorem filterRules_append {rules : List Rule} (complete : ∀ rule ∈ rules, rule.body.HasOperands)
    (first second : List String) :
    filterRules second (filterRules first rules) = filterRules (first ++ second) rules := by
  by_cases noFirst : first = []
  · rw [noFirst]
    rfl
  by_cases noSecond : second = []
  · rw [noSecond, List.append_nil]
    rfl
  have either : first ++ second ≠ [] := List.append_ne_nil_of_left_ne_nil noFirst second
  have listed : ∀ rule ∈ rules,
      ((!second.contains (rule.without first).name) && !first.contains rule.name) =
        !(first ++ second).contains rule.name := by
    intro rule _
    rw [List.contains_append, Bool.not_or, Bool.and_comm]
    rfl
  calc filterRules second (filterRules first rules)
      = (rules.filter fun rule =>
          (!second.contains (rule.without first).name) && !first.contains rule.name).map
            (Rule.without second ∘ Rule.without first) := by
        rw [filterRules_of_ne_nil noFirst, filterRules_of_ne_nil noSecond, List.filter_map,
          List.map_map, List.filter_filter]
        rfl
    _ = (rules.filter fun rule => !(first ++ second).contains rule.name).map
          (Rule.without second ∘ Rule.without first) := by
        rw [List.filter_congr listed]
    _ = (rules.filter fun rule => !(first ++ second).contains rule.name).map
          (Rule.without (first ++ second)) :=
        List.map_congr_left fun rule member =>
          Rule.without_without (complete rule (List.mem_filter.mp member).1) first second
    _ = filterRules (first ++ second) rules := (filterRules_of_ne_nil either rules).symm

/-- Exclusion composes: to exclude in two steps is to exclude in one, to exclude again changes nothing,
and it matters neither which step is the first nor in which order the names of a step are. -/
theorem filterRules_filterRules {rules : List Rule}
    (complete : ∀ rule ∈ rules, rule.body.HasOperands) (first second : List String) :
    filterRules second (filterRules first rules) = filterRules (first ++ second) rules ∧
      filterRules first (filterRules first rules) = filterRules first rules ∧
        filterRules second (filterRules first rules) =
          filterRules first (filterRules second rules) ∧
          ∀ names : List String, (∀ name, name ∈ names ↔ name ∈ first) →
            filterRules names rules = filterRules first rules := by
  refine ⟨filterRules_append complete first second, ?_, ?_, fun names same => ?_⟩
  · rw [filterRules_append complete]
    exact filterRules_congr (fun name => by simp) rules
  · rw [filterRules_append complete, filterRules_append complete]
    exact filterRules_congr (fun name => by simp [or_comm]) rules
  · exact filterRules_congr same rules

/-- Rules that lose an end of a range, all of their body, or first one reference and then the other. -/
def fadingRules : List Rule :=
  [{ name := "ends", kind := .parser, line := 1,
     body := Node.block [Node.alternative [
       .mk .range [Node.token "A", Node.token "NL"], Node.leaf (.ruleRef "line")]] },
   { name := "line", kind := .parser, line := 2,
     body := Node.block [Node.alternative [Node.token "NL"]] },
   { name := "both", kind := .parser, line := 3,
     body := Node.block [Node.alternative [
       .mk (.star true) [Node.block [Node.alternative [Node.token "NL", Node.leaf (.ruleRef "line")]]],
       Node.token "B"]] }]

/-- Line ends and the rule for them are excluded in two steps, in the other order, and at once. -/
theorem filterRules_filterRules_fadingRules :
    (∀ rule ∈ fadingRules, rule.body.HasOperands) ∧
      filterRules ["line"] (filterRules ["NL"] fadingRules) =
        filterRules ["NL"] (filterRules ["line"] fadingRules) ∧
        (filterRules ["line"] (filterRules ["NL"] fadingRules)).map Rule.body =
          [Node.block [], Node.block [Node.alternative [Node.token "B"]]] := by
  have complete : ∀ rule ∈ fadingRules, rule.body.HasOperands := by
    intro rule member
    apply (Node.firstArityViolation?_eq_none rule.name).mp
    revert rule
    decide +kernel
  obtain ⟨atOnce, -, swapped, -⟩ := filterRules_filterRules complete ["NL"] ["line"]
  refine ⟨complete, swapped, ?_⟩
  rw [atOnce]
  decide +kernel

end Rulebook
