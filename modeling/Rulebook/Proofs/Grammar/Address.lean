import Rulebook.Proofs.Grammar.Arity
import Rulebook.Proofs.Grammar.Postorder

/-!
# Addresses of nodes

Nodes of a body may look alike, so what is said of one of them is said of its address: the numbers of
the children on the way down to it.  The address of a node also tells its place among all nodes that
are listed after their children.
-/

namespace Rulebook
namespace Node

/-- The node at an address below a node. -/
def at? (node : Node) : List Nat → Option Node
  | [] => some node
  | index :: address => node.children[index]?.bind fun child => child.at? address

@[simp]
theorem at?_nil (node : Node) : node.at? [] = some node := rfl

theorem at?_cons {node child : Node} {index : Nat} (found : node.children[index]? = some child)
    (address : List Nat) : node.at? (index :: address) = child.at? address := by
  rw [at?, found, Option.bind_some]

theorem at?_cons_eq_some {node part : Node} {index : Nat} {address : List Nat} :
    node.at? (index :: address) = some part ↔
      ∃ child, node.children[index]? = some child ∧ child.at? address = some part := by
  rw [at?, Option.bind_eq_some_iff]

/-- To go down along two addresses is to go down along one and from there along the other. -/
theorem at?_append (node : Node) (address below : List Nat) :
    node.at? (address ++ below) = (node.at? address).bind fun part => part.at? below := by
  induction address generalizing node with
  | nil => rfl
  | cons index address induction =>
      rw [List.cons_append, at?, at?]
      cases node.children[index]? with
      | none => rfl
      | some child => exact induction child

theorem at?_append_eq_some {node part : Node} {address below : List Nat} :
    node.at? (address ++ below) = some part ↔
      ∃ upper, node.at? address = some upper ∧ upper.at? below = some part := by
  rw [at?_append, Option.bind_eq_some_iff]

/-- All nodes of a body without missing operands have their operands. -/
theorem HasOperands.at? {body part : Node} {address : List Nat} (complete : body.HasOperands)
    (found : body.at? address = some part) : part.HasOperands := by
  induction address generalizing body with
  | nil => exact Option.some.inj found ▸ complete
  | cons index address induction =>
      obtain ⟨child, listed, below⟩ := at?_cons_eq_some.mp found
      obtain ⟨kind, children⟩ := body
      exact induction ((hasOperands_mk.mp complete).2 child (List.mem_of_getElem? listed)) below

/-! ### Places among the nodes after their children -/

/-- How many nodes are listed before the node at an address, when nodes follow their children. -/
def rank (node : Node) : List Nat → Nat
  | [] => (node.children.flatMap postorder).length
  | index :: address =>
      ((node.children.take index).flatMap postorder).length +
        (node.children[index]?.map fun child => child.rank address).getD 0

theorem rank_cons {node child : Node} {index : Nat} (found : node.children[index]? = some child)
    (address : List Nat) : node.rank (index :: address) =
      ((node.children.take index).flatMap postorder).length + child.rank address := by
  rw [rank, found, Option.map_some, Option.getD_some]

/-- If every node gives as many values as there are nodes in it, then a value that a child gives is found
in the row behind as many values as there are nodes before the child. -/
theorem getElem?_flatMap {Value : Type} {values : Node → List Value}
    (sized : ∀ node, (values node).length = node.postorder.length) {nodes : List Node} {child : Node}
    {index place : Nat} {value : Value} (found : nodes[index]? = some child)
    (given : (values child)[place]? = some value) :
    (nodes.flatMap values)[((nodes.take index).flatMap postorder).length + place]? = some value := by
  induction nodes generalizing index with
  | nil => simp at found
  | cons node nodes induction =>
      rw [List.flatMap_cons]
      cases index with
      | zero =>
          obtain rfl : node = child := by simpa using found
          have inside : place < (values node).length := (List.getElem?_eq_some_iff.mp given).1
          rw [List.take_zero, List.flatMap_nil, List.length_nil, Nat.zero_add,
            List.getElem?_append_left inside]
          exact given
      | succ index =>
          have listed : nodes[index]? = some child := by simpa using found
          rw [List.take_succ_cons, List.flatMap_cons, List.length_append, Nat.add_assoc, ← sized node,
            List.getElem?_append_right (Nat.le_add_right _ _), Nat.add_sub_cancel_left]
          exact induction listed

/-- The rank of an address is the place of its node. -/
theorem getElem?_postorder {body part : Node} {address : List Nat}
    (found : body.at? address = some part) : body.postorder[body.rank address]? = some part := by
  induction address generalizing body with
  | nil =>
      obtain ⟨kind, children⟩ := body
      obtain rfl : mk kind children = part := Option.some.inj found
      rw [rank, postorder_mk, children_mk, List.getElem?_append_right (Nat.le_refl _), Nat.sub_self]
      rfl
  | cons index address induction =>
      obtain ⟨kind, children⟩ := body
      obtain ⟨child, listed, below⟩ := at?_cons_eq_some.mp found
      have inside : (children.flatMap postorder)[((children.take index).flatMap postorder).length +
          child.rank address]? = some part :=
        getElem?_flatMap (fun _ => rfl) listed (induction below)
      rw [rank_cons listed, children_mk, postorder_mk,
        List.getElem?_append_left (List.getElem?_eq_some_iff.mp inside).1]
      exact inside

/-- The nodes at the addresses of a body are nodes of the body. -/
theorem mem_preorder_of_at? {body part : Node} {address : List Nat}
    (found : body.at? address = some part) : part ∈ body.preorder :=
  mem_postorder.mp (List.mem_of_getElem? (getElem?_postorder found))

end Node
end Rulebook
