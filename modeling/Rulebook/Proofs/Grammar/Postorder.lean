import Rulebook.Proofs.Grammar.Preorder

/-!
# Nodes after their children

When the nodes of a tree are listed after their children, their kinds and numbers of children tell the
whole tree: a node takes as many of the trees before it as it has children.
-/

namespace Rulebook
namespace Node

mutual

/-- A node and its descendants, each after its own children, from left to right. -/
def postorder : Node → List Node
  | mk kind children => postorderAll children ++ [mk kind children]

/-- The nodes of a row of trees, each after its own children, from left to right. -/
def postorderAll : List Node → List Node
  | [] => []
  | node :: later => postorder node ++ postorderAll later

end

theorem postorderAll_eq (nodes : List Node) : postorderAll nodes = nodes.flatMap postorder := by
  induction nodes with
  | nil => rfl
  | cons node nodes induction => rw [postorderAll, List.flatMap_cons, induction]

theorem postorder_mk (kind : NodeKind) (children : List Node) :
    postorder (mk kind children) = children.flatMap postorder ++ [mk kind children] := by
  rw [postorder, postorderAll_eq]

/-- The nodes after their children are the nodes before their children. -/
theorem mem_postorder {part node : Node} : part ∈ node.postorder ↔ part ∈ node.preorder := by
  induction node with
  | mk kind children induction =>
      rw [postorder_mk, preorder, preorderAll_eq, List.mem_append, List.mem_singleton, List.mem_cons,
        or_comm, List.mem_flatMap, List.mem_flatMap]
      exact or_congr_right (exists_congr fun child => and_congr_right fun member =>
        induction child member)

/-- The kind of a node and the number of its children. -/
def shape (node : Node) : NodeKind × Nat :=
  (node.kind, node.children.length)

/-- The trees that are complete after one more shape, the latest first: the node of the shape takes its
children off the earlier ones. -/
def push (stack : List Node) (shape : NodeKind × Nat) : List Node :=
  mk shape.1 (stack.take shape.2).reverse :: stack.drop shape.2

theorem push_children (kind : NodeKind) (children stack : List Node) :
    push (children.reverse ++ stack) (shape (mk kind children)) = mk kind children :: stack := by
  have counted : (shape (mk kind children)).2 = children.reverse.length :=
    List.length_reverse.symm
  rw [push, counted, List.take_left, List.drop_left, List.reverse_reverse]
  rfl

theorem foldl_push_flatMap {nodes : List Node}
    (each : ∀ node ∈ nodes, ∀ stack, (node.postorder.map shape).foldl push stack = node :: stack)
    (stack : List Node) :
    ((nodes.flatMap postorder).map shape).foldl push stack = nodes.reverse ++ stack := by
  induction nodes generalizing stack with
  | nil => rfl
  | cons node nodes induction =>
      rw [List.forall_mem_cons] at each
      rw [List.flatMap_cons, List.map_append, List.foldl_append, each.1, induction each.2,
        List.reverse_cons, List.append_assoc]
      rfl

/-- The shapes of a tree, each after those of the children, put the tree together again. -/
theorem foldl_push_postorder (node : Node) (stack : List Node) :
    (node.postorder.map shape).foldl push stack = node :: stack := by
  induction node generalizing stack with
  | mk kind children induction =>
      rw [postorder_mk, List.map_append, List.foldl_append, foldl_push_flatMap induction]
      exact push_children kind children stack

end Node
end Rulebook
