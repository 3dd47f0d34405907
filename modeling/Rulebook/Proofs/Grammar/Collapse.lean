import Rulebook.Proofs.Notation.Image

/-!
# Collapsed bodies

Groups around a single node say nothing about what a body matches.  A collapsed body has none, and
its sets are written as the choices that they are.
-/

namespace Rulebook

namespace Node

mutual

/-- The body without the nodes below it that are left out, where a wrapper around a single remaining
node gives way to that node. -/
def stripped (leftOut wrapper : NodeKind → Bool) : Node → Node
  | mk kind children =>
      match strippedAll leftOut wrapper children with
      | [only] => if wrapper kind then only else mk kind [only]
      | remaining => mk kind remaining

/-- The nodes of a row that are not left out, each without wrappers. -/
def strippedAll (leftOut wrapper : NodeKind → Bool) : List Node → List Node
  | [] => []
  | node :: later =>
      if leftOut node.kind then strippedAll leftOut wrapper later
      else stripped leftOut wrapper node :: strippedAll leftOut wrapper later

end

theorem strippedAll_eq (leftOut wrapper : NodeKind → Bool) (nodes : List Node) :
    strippedAll leftOut wrapper nodes =
      (nodes.filter fun node => !leftOut node.kind).map (stripped leftOut wrapper) := by
  induction nodes with
  | nil => rfl
  | cons node nodes induction =>
      rw [strippedAll, List.filter_cons, induction]
      cases leftOut node.kind <;> rfl

mutual

/-- The body with its sets written as choices. -/
def withoutSets : Node → Node
  | mk kind children => mk (if kind = .set then .block else kind) (withoutSetsAll children)

/-- A row of bodies with their sets written as choices. -/
def withoutSetsAll : List Node → List Node
  | [] => []
  | node :: later => withoutSets node :: withoutSetsAll later

end

theorem withoutSetsAll_eq (nodes : List Node) : withoutSetsAll nodes = nodes.map withoutSets := by
  induction nodes with
  | nil => rfl
  | cons node nodes induction => rw [withoutSetsAll, induction, List.map_cons]

/-- The body without groups around single nodes, its sets written as choices. -/
def collapsed (body : Node) : Node :=
  body.withoutSets.stripped (fun _ => false) NodeKind.isGroup

/-- A node over its collapsed children: a group around a single one gives way to it. -/
def regroup (kind : NodeKind) (children : List Node) : Node :=
  match children with
  | [only] => if kind.isGroup then only else mk kind [only]
  | _ => mk kind children

theorem collapsed_mk (kind : NodeKind) (children : List Node) :
    (mk kind children).collapsed =
      regroup (if kind = .set then .block else kind) (children.map collapsed) := by
  have rows : strippedAll (fun _ => false) NodeKind.isGroup (withoutSetsAll children) =
      children.map collapsed := by
    rw [strippedAll_eq, withoutSetsAll_eq, List.filter_eq_self.mpr (by simp), List.map_map]
    rfl
  rw [collapsed, withoutSets, stripped, rows]
  rcases children.map collapsed with _ | ⟨node, _ | ⟨second, later⟩⟩ <;> rfl

end Node

/-! ### Collapsed elements -/

/-- The collapsed forms of what the reader builds from a text without actions and conditions. -/
inductive IsCollapsed : Node → Prop where
  /-- A spelling. -/
  | literal (value : String) : IsCollapsed (Node.literal value)
  /-- A set of characters. -/
  | charSet (body : String) : IsCollapsed (Node.leaf (.charSet body))
  /-- A reference. -/
  | reference (name : String) : IsCollapsed (Node.reference name)
  /-- An alternative without elements. -/
  | empty : IsCollapsed (Node.alternative [])
  /-- Several elements in order. -/
  | alternative {nodes : List Node} (several : 1 < nodes.length)
      (each : ∀ node ∈ nodes, IsCollapsed node) : IsCollapsed (Node.alternative nodes)
  /-- Several alternatives. -/
  | block {nodes : List Node} (several : 1 < nodes.length)
      (each : ∀ node ∈ nodes, IsCollapsed node) : IsCollapsed (Node.block nodes)
  /-- A quantifier. -/
  | quantified {quantifier : NodeKind} {operand : Node}
      (quantifies : quantifier.isQuantifier = true) (inner : IsCollapsed operand) :
      IsCollapsed (.mk quantifier [operand])
  /-- A negation. -/
  | negation {operand : Node} (inner : IsCollapsed operand) : IsCollapsed (.mk .negation [operand])
  /-- A range. -/
  | range {left right : Node} (first : IsCollapsed left) (second : IsCollapsed right) :
      IsCollapsed (.mk .range [left, right])

theorem IsCollapsed.regroup_alternative {nodes : List Node}
    (each : ∀ node ∈ nodes, IsCollapsed node) :
    IsCollapsed (Node.regroup .alternative nodes) := by
  rcases nodes with _ | ⟨node, _ | ⟨second, later⟩⟩
  · exact .empty
  · exact each node List.mem_cons_self
  · exact .alternative (by simp) each

theorem IsCollapsed.regroup_block {nodes : List Node} (some : nodes ≠ [])
    (each : ∀ node ∈ nodes, IsCollapsed node) : IsCollapsed (Node.regroup .block nodes) := by
  rcases nodes with _ | ⟨node, _ | ⟨second, later⟩⟩
  · exact (some rfl).elim
  · exact each node List.mem_cons_self
  · exact .block (by simp) each

theorem isCollapsed_choiceOf {rows : List (List Node)} (some : rows ≠ [])
    (each : ∀ row ∈ rows, ∀ node ∈ row, IsCollapsed node.collapsed) :
    IsCollapsed (Notation.choiceOf rows).collapsed := by
  rw [Notation.choiceOf, Node.collapsed_mk, if_neg (by simp)]
  refine .regroup_block (by simpa using some) ?_
  simp only [List.map_map, List.forall_mem_map, Function.comp_apply]
  intro row member
  rw [Node.collapsed_mk, if_neg (by simp)]
  exact .regroup_alternative (List.forall_mem_map.mpr (each row member))

theorem Node.collapsed_reference (name : String) :
    (Node.reference name).collapsed = Node.reference name := by
  unfold Node.reference
  cases RuleKind.ofName name with
  | parser => rw [Node.leaf, Node.collapsed_mk]; rfl
  | lexer => rw [Node.token, Node.leaf, Node.collapsed_mk]; rfl

/-- What the reader builds without silent parts collapses to a collapsed form. -/
theorem isCollapsed_of_isElement {node : Node} (element : Notation.IsElement node)
    (voiced : node.AllKinds (·.isSilent = false)) : IsCollapsed node.collapsed := by
  induction element with
  | literal value =>
      rw [Node.collapsed_mk]
      exact .literal value
  | charSet body =>
      rw [Node.collapsed_mk]
      exact .charSet body
  | token _ spelled upper =>
      rw [← Notation.reference_eq_token spelled upper, Node.collapsed_reference]
      exact .reference _
  | ruleRef _ spelled other =>
      rw [← Notation.reference_eq_ruleRef spelled other, Node.collapsed_reference]
      exact .reference _
  | predicate => simp [Node.allKinds_mk, NodeKind.isSilent] at voiced
  | placeholder => simp [Node.allKinds_mk, NodeKind.isSilent] at voiced
  | choice some _ induction =>
      have below := (Notation.allKinds_choiceOf.mp voiced).2
      exact isCollapsed_choiceOf some fun row member node present =>
        induction row member node present ((below row member).2 node present)
  | @quantified quantifier rows quantifies some _ induction =>
      have operand := (Node.allKinds_mk.mp voiced).2 _ (List.mem_singleton.mpr rfl)
      have below := (Notation.allKinds_choiceOf.mp operand).2
      have inner := isCollapsed_choiceOf some fun row member node present =>
        induction row member node present ((below row member).2 node present)
      rw [Node.collapsed_mk]
      cases quantifier with
      | optional | plus | star => exact .quantified quantifies inner
      | _ => simp [NodeKind.isQuantifier] at quantifies
  | range _ _ _ _ first second =>
      have below := (Node.allKinds_mk.mp voiced).2
      rw [Node.collapsed_mk]
      exact .range (first (below _ (by simp))) (second (below _ (by simp)))
  | negation _ _ _ induction =>
      rw [Node.collapsed_mk]
      exact .negation (induction ((Node.allKinds_mk.mp voiced).2 _ (List.mem_singleton.mpr rfl)))
  | @negatedSet members some _ _ induction =>
      have set := (Node.allKinds_mk.mp voiced).2 _ (List.mem_singleton.mpr rfl)
      have below := (Node.allKinds_mk.mp set).2
      rw [Node.collapsed_mk]
      refine .negation ?_
      rw [Node.collapsed_mk, if_pos rfl]
      refine .regroup_block (by simpa using some) ?_
      exact List.forall_mem_map.mpr fun member present =>
        induction member present (below member present)

/-! ### Operators side by side -/

/-- Can an operator be told from one of its operands when their signs stand side by side?  `first`
tells whether the operand is the first. -/
def NodeKind.mayHold (outer : NodeKind) (first : Bool) (inner : NodeKind) : Bool :=
  match outer with
  | .range => if first then inner.isAtomic else !inner.isQuantifier
  | .negation => !inner.isQuantifier
  | .optional _ => !(inner.isQuantifier && inner.isGreedy)
  | _ => true

/-- Does no operator of a body hold another from which it cannot be told? -/
def Node.Unstacked (body : Node) : Prop :=
  body.Everywhere fun part =>
    (∀ child ∈ part.children.head?, part.kind.mayHold true child.kind = true) ∧
      ∀ child ∈ part.children.tail, part.kind.mayHold false child.kind = true

instance (body : Node) : Decidable body.Unstacked :=
  inferInstanceAs (Decidable (Node.Everywhere _ body))

theorem Node.unstacked_mk {kind : NodeKind} {children : List Node} :
    Unstacked (mk kind children) ↔
      ((∀ child ∈ children.head?, kind.mayHold true child.kind = true) ∧
        ∀ child ∈ children.tail, kind.mayHold false child.kind = true) ∧
          ∀ child ∈ children, Unstacked child :=
  everywhere_mk

theorem Node.unstacked_single {kind : NodeKind} {operand : Node} :
    Unstacked (mk kind [operand]) ↔ kind.mayHold true operand.kind = true ∧ Unstacked operand := by
  simp [unstacked_mk]

theorem Node.unstacked_range {left right : Node} :
    Unstacked (mk .range [left, right]) ↔
      (left.kind.isAtomic = true ∧ right.kind.isQuantifier = false) ∧
        Unstacked left ∧ Unstacked right := by
  simp [unstacked_mk, NodeKind.mayHold]

end Rulebook
