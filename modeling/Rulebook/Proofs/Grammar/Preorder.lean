import Rulebook.Grammar.Exclusion
import Rulebook.Rendering.Descent

/-!
# Nodes from the leaves up

A property of all nodes is proved from the children of a node to the node.  The traversals of a row
of nodes are the usual operations on lists, so a fact about a row follows from its members.
-/

namespace Rulebook
namespace Node

/-- What passes from the children of a node to the node holds of every node. -/
@[elab_as_elim, induction_eliminator]
theorem induct {motive : Node → Prop}
    (mk : ∀ kind children, (∀ child ∈ children, motive child) → motive (.mk kind children)) :
    ∀ node, motive node
  | .mk kind children => mk kind children fun child _ => induct mk child
  termination_by node => sizeOf node
  decreasing_by
    have smaller : sizeOf child < sizeOf children := List.sizeOf_lt_of_mem (by assumption)
    simp only [Node.mk.sizeOf_spec]
    omega

@[simp]
theorem kind_mk (kind : NodeKind) (children : List Node) : (mk kind children).kind = kind := rfl

@[simp]
theorem children_mk (kind : NodeKind) (children : List Node) :
    (mk kind children).children = children := rfl

theorem preorderAll_eq (nodes : List Node) : preorderAll nodes = nodes.flatMap preorder := by
  induction nodes with
  | nil => simp [preorderAll]
  | cons node nodes induction => simp [preorderAll, induction]

theorem pruneAll_eq (excluded : List String) (nodes : List Node) :
    pruneAll excluded nodes = nodes.filterMap (prune excluded) := by
  induction nodes with
  | nil => simp [pruneAll]
  | cons node nodes induction =>
      rw [pruneAll, List.filterMap_cons, induction]
      cases prune excluded node <;> rfl

/-- Does a property hold of a body and of all nodes below it? -/
def Everywhere (holds : Node → Prop) (body : Node) : Prop :=
  ∀ part ∈ body.preorder, holds part

instance {holds : Node → Prop} [DecidablePred holds] (body : Node) :
    Decidable (Everywhere holds body) :=
  inferInstanceAs (Decidable (∀ part ∈ body.preorder, holds part))

theorem everywhere_mk {holds : Node → Prop} {kind : NodeKind} {children : List Node} :
    Everywhere holds (mk kind children) ↔
      holds (mk kind children) ∧ ∀ child ∈ children, Everywhere holds child := by
  simp only [Everywhere, preorder, preorderAll_eq, List.mem_cons, List.mem_flatMap]
  constructor
  · intro all
    exact ⟨all _ (.inl rfl), fun child member part inside => all part (.inr ⟨child, member, inside⟩)⟩
  · rintro ⟨here, below⟩ part (rfl | ⟨child, member, inside⟩)
    · exact here
    · exact below child member part inside

/-- Do all kinds in a body have a property? -/
def AllKinds (allowed : NodeKind → Prop) (body : Node) : Prop :=
  body.Everywhere fun part => allowed part.kind

instance {allowed : NodeKind → Prop} [DecidablePred allowed] (body : Node) :
    Decidable (AllKinds allowed body) :=
  inferInstanceAs (Decidable (Everywhere _ body))

theorem allKinds_mk {allowed : NodeKind → Prop} {kind : NodeKind} {children : List Node} :
    AllKinds allowed (mk kind children) ↔
      allowed kind ∧ ∀ child ∈ children, AllKinds allowed child :=
  everywhere_mk

theorem AllKinds.kind {allowed : NodeKind → Prop} {body : Node} (all : AllKinds allowed body) :
    allowed body.kind := by
  obtain ⟨kind, children⟩ := body
  exact (allKinds_mk.mp all).1

theorem AllKinds.mono {allowed permitted : NodeKind → Prop}
    (weaker : ∀ kind, allowed kind → permitted kind) {body : Node}
    (all : AllKinds allowed body) : AllKinds permitted body :=
  fun part inside => weaker _ (all part inside)

/-- A node goes if it refers to an excluded name, and otherwise stays if it has no children or enough of
them remain. -/
theorem prune_mk (excluded : List String) (kind : NodeKind) (children : List Node) :
    prune excluded (mk kind children) =
      if refersTo excluded (mk kind children) then none
      else if children = [] then some (mk kind [])
      else if kind.survives (children.filterMap (prune excluded)) then
        some (mk kind (children.filterMap (prune excluded)))
      else none := by
  rw [prune, pruneAll_eq]
  cases children <;> rfl

/-- What remains of a node is the node itself if it has no children, and otherwise the node over what
remains of its children, which are enough for it. -/
theorem prune_cases {excluded : List String} {kind : NodeKind} {children : List Node}
    {kept : Node} (pruned : prune excluded (mk kind children) = some kept) :
    (children = [] ∧ kept = mk kind []) ∨
      (kind.survives (children.filterMap (prune excluded)) = true ∧
        kept = mk kind (children.filterMap (prune excluded))) := by
  rw [prune_mk] at pruned
  split at pruned
  · simp at pruned
  · split at pruned
    · exact .inl ⟨by assumption, (Option.some.inj pruned).symm⟩
    · split at pruned
      · exact .inr ⟨by assumption, (Option.some.inj pruned).symm⟩
      · simp at pruned

/-- What remains of a node is the node over what remains of its children. -/
theorem eq_of_prune {excluded : List String} {kind : NodeKind} {children : List Node} {kept : Node}
    (pruned : prune excluded (mk kind children) = some kept) :
    kept = mk kind (children.filterMap (prune excluded)) := by
  rcases prune_cases pruned with ⟨rfl, rfl⟩ | ⟨-, rfl⟩ <;> rfl

/-- Pruning brings no kinds into a body. -/
theorem AllKinds.prune {allowed : NodeKind → Prop} {excluded : List String} {body kept : Node}
    (all : AllKinds allowed body) (pruned : Node.prune excluded body = some kept) :
    AllKinds allowed kept := by
  induction body generalizing kept with
  | mk kind children induction =>
      obtain ⟨here, below⟩ := allKinds_mk.mp all
      rcases prune_cases pruned with ⟨rfl, rfl⟩ | ⟨-, rfl⟩
      · exact all
      · refine allKinds_mk.mpr ⟨here, ?_⟩
        intro child member
        obtain ⟨original, present, survives⟩ := List.mem_filterMap.mp member
        exact induction original present (below original present) survives

end Node
end Rulebook
