import Rulebook.Proofs.Grammar.Arity
import Rulebook.Proofs.Grammar.Sections

/-!
# Tips of a body

What a rendering shows of a body one by one are its tips.  All references of a body stand there, and
those that remain in a rendered rule lead to no excluded name.
-/

namespace Rulebook

namespace NodeKind

/-- The name to which a node of the kind refers, if it is a reference. -/
def target? : NodeKind → Option String
  | terminal (.token name) => some name
  | ruleRef name => some name
  | _ => none

theorem arity?_of_isLeaf {kind : NodeKind} (tip : kind.isLeaf = true) : kind.arity? = some 0 := by
  cases kind with
  | terminal | ruleRef | charSet | predicate | placeholder => rfl
  | _ => simp [isLeaf] at tip

theorem isLeaf_of_target? {kind : NodeKind} {name : String} (refers : kind.target? = some name) :
    kind.isLeaf = true := by
  cases kind with
  | terminal | ruleRef => rfl
  | _ => simp [target?] at refers

theorem target?_eq_some {kind : NodeKind} {name : String} :
    kind.target? = some name ↔ kind = terminal (.token name) ∨ kind = ruleRef name := by
  constructor
  · intro refers
    cases kind with
    | terminal shown =>
        cases shown with
        | token other => exact .inl (by rw [Option.some.inj refers])
        | literal value => simp [target?] at refers
    | ruleRef other => exact .inr (by rw [Option.some.inj refers])
    | _ => simp [target?] at refers
  · rintro (rfl | rfl) <;> rfl

end NodeKind

namespace Node

theorem referencedName?_eq (node : Node) : node.referencedName? = node.kind.target? := by
  obtain ⟨kind, children⟩ := node
  cases kind with
  | terminal shown => cases shown <;> rfl
  | _ => rfl

/-- The kinds of the tips of a body, from left to right. -/
def tips (body : Node) : List NodeKind :=
  (body.preorder.map kind).filter NodeKind.isLeaf

theorem tips_mk (kind : NodeKind) (children : List Node) :
    tips (mk kind children) = [kind].filter NodeKind.isLeaf ++ children.flatMap tips := by
  simp only [tips, preorder, preorderAll_eq, List.map_cons, List.map_flatMap, kind_mk]
  rw [← List.singleton_append, List.filter_append, List.filter_flatMap]
  rfl

/-- A tip has no other tips below it. -/
theorem tips_of_isLeaf {kind : NodeKind} {children : List Node}
    (complete : HasOperands (mk kind children)) (tip : kind.isLeaf = true) :
    tips (mk kind children) = [kind] := by
  have childless : children = [] := List.length_eq_zero_iff.mp
    ((hasOperands_mk.mp complete).1 0 (NodeKind.arity?_of_isLeaf tip))
  simp [tips_mk, childless, tip]

theorem tips_of_not_isLeaf {kind : NodeKind} (children : List Node) (inner : kind.isLeaf = false) :
    tips (mk kind children) = children.flatMap tips := by
  simp [tips_mk, inner]

/-- In a body with operands the nodes of a leaf's kind are leaves. -/
theorem leaf_mem_preorder {body : Node} (complete : body.HasOperands) {kind : NodeKind}
    (tip : kind.isLeaf = true) : leaf kind ∈ body.preorder ↔ kind ∈ body.tips := by
  simp only [tips, List.mem_filter, List.mem_map, tip, and_true]
  constructor
  · intro inside
    exact ⟨leaf kind, inside, rfl⟩
  · rintro ⟨⟨_, children⟩, inside, rfl⟩
    have childless := complete _ inside 0 (NodeKind.arity?_of_isLeaf tip)
    rw [children_mk, List.length_eq_zero_iff] at childless
    exact childless ▸ inside

/-- The names to which a body refers are those to which its tips refer. -/
theorem mem_referencedNames {body : Node} {name : String} :
    name ∈ body.referencedNames ↔ ∃ tip ∈ body.tips, tip.target? = some name := by
  simp only [referencedNames, List.mem_eraseDups, List.mem_filterMap, referencedName?_eq, tips,
    List.mem_filter, List.mem_map]
  constructor
  · rintro ⟨part, inside, refers⟩
    exact ⟨part.kind, ⟨⟨part, inside, rfl⟩, NodeKind.isLeaf_of_target? refers⟩, refers⟩
  · rintro ⟨_, ⟨⟨part, inside, rfl⟩, -⟩, refers⟩
    exact ⟨part, inside, refers⟩

/-! ### References that remain -/

theorem refersTo_mk (excluded : List String) (kind : NodeKind) (children others : List Node) :
    refersTo excluded (mk kind children) = refersTo excluded (mk kind others) := by
  rw [refersTo, refersTo, referencedName?_eq, referencedName?_eq, kind_mk, kind_mk]

/-- Is a node neither a token nor a rule reference with an excluded name? -/
def Spares (excluded : List String) (part : Node) : Prop :=
  ∀ name, part.kind = .terminal (.token name) ∨ part.kind = .ruleRef name → name ∉ excluded

theorem refersTo_eq_false_iff {excluded : List String} {part : Node} :
    part.refersTo excluded = false ↔ part.Spares excluded := by
  rw [refersTo, referencedName?_eq, Spares]
  simp only [← NodeKind.target?_eq_some]
  cases part.kind.target? <;> simp

/-- A node that refers to an excluded name does not remain. -/
theorem refersTo_of_prune {excluded : List String} {body kept : Node}
    (pruned : prune excluded body = some kept) : refersTo excluded body = false := by
  obtain ⟨kind, children⟩ := body
  rw [prune_mk] at pruned
  split at pruned
  · simp at pruned
  · rename_i elsewhere
    exact Bool.eq_false_iff.mpr elsewhere

/-- Pruning leaves no reference to an excluded name. -/
theorem everywhere_of_prune {excluded : List String} {body kept : Node}
    (pruned : prune excluded body = some kept) :
    kept.Everywhere fun part => part.refersTo excluded = false := by
  induction body generalizing kept with
  | mk kind children induction =>
      have here : refersTo excluded (mk kind children) = false := refersTo_of_prune pruned
      rcases prune_cases pruned with ⟨rfl, rfl⟩ | ⟨-, rfl⟩
      · exact everywhere_mk.mpr ⟨here, List.forall_mem_nil _⟩
      · rw [everywhere_mk]
        constructor
        · rw [refersTo_mk excluded kind _ children, here]
        · intro child member
          obtain ⟨original, present, survives⟩ := List.mem_filterMap.mp member
          exact induction original present survives

end Node

/-- What remains of a rule has no reference to an excluded name. -/
theorem Settings.everywhere_remainder (settings : Settings) (rule : Rule) :
    (settings.remainder rule).body.Everywhere fun part =>
      part.refersTo settings.excludedRules = false := by
  rw [remainder]
  split
  · rename_i none
    rw [List.isEmpty_iff] at none
    intro part inside
    unfold Node.refersTo
    split
    · rw [none, List.contains_nil]
    · rfl
  · rw [Rule.without]
    cases pruned : rule.body.prune settings.excludedRules with
    | some kept => exact Node.everywhere_of_prune pruned
    | none => exact Node.everywhere_mk.mpr ⟨rfl, List.forall_mem_nil _⟩

/-- The references in a rule that is rendered lead to no excluded name. -/
theorem Grammar.not_mem_excluded_of_mem_renderedRules {grammar : Grammar} {settings : Settings}
    {kind : RuleKind} {rule : Rule} (member : rule ∈ grammar.renderedRules settings kind)
    {name : String} (refers : name ∈ rule.body.referencedNames) : name ∉ settings.excludedRules := by
  rw [renderedRules_eq] at member
  obtain ⟨declared, -, rfl⟩ := List.mem_map.mp member
  rw [Node.referencedNames, List.mem_eraseDups, List.mem_filterMap] at refers
  obtain ⟨part, inside, target⟩ := refers
  have kept : part.refersTo settings.excludedRules = false :=
    settings.everywhere_remainder declared part inside
  rw [Node.refersTo, target] at kept
  simpa using kept

end Rulebook
