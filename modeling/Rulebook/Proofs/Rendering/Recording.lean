import Rulebook.Proofs.Grammar.Postorder
import Rulebook.Proofs.Rendering.Simulation
import Rulebook.Rendering.Trace

/-!
# Recorded requests

The recorder keeps one request for each node of a body, the children of a node from left to right and
before the node.  What a node asks for depends on the node and on where it stands.
-/

namespace Rulebook

/-- The request that a node makes for itself where it stands. -/
def Node.request (position : Position) (node : Node) : Request :=
  let grouping := node.needsGrouping && !position.sole
  match node.kind with
  | .block => .block grouping node.children.length
  | .set => .set grouping node.children.length
  | .alternative => .alternative (grouping && !position.inChoice) node.children.length
  | .sequence => .sequence node.children.length
  | .optional greedy => .optional greedy
  | .plus greedy => .plus greedy
  | .star greedy => .star greedy
  | .negation => .negation
  | .range => .range
  | .terminal shown => .terminal shown
  | .ruleRef name => .ruleRef name
  | .charSet body => .charSet body
  | .predicate => .predicate
  | .placeholder => .placeholder

namespace Node

mutual

/-- The requests of a node and of all nodes below it, each after those of its children. -/
def requests (position : Position) : Node → List Request
  | mk kind children =>
      requestsAll (position.below kind children) children ++ [request position (mk kind children)]

/-- The requests of a row of nodes that stand at a position. -/
def requestsAll (position : Position) : List Node → List Request
  | [] => []
  | node :: later => requests position node ++ requestsAll position later

end

theorem requestsAll_eq (position : Position) (nodes : List Node) :
    requestsAll position nodes = nodes.flatMap (requests position) := by
  induction nodes with
  | nil => rfl
  | cons node nodes induction => rw [requestsAll, induction, List.flatMap_cons]

theorem requests_mk (position : Position) (kind : NodeKind) (children : List Node) :
    requests position (mk kind children) =
      children.flatMap (requests (position.below kind children)) ++
        [request position (mk kind children)] := by
  rw [requests, requestsAll_eq]

/-- Every node makes one request. -/
theorem length_requests (position : Position) (node : Node) :
    (node.requests position).length = node.postorder.length := by
  induction node generalizing position with
  | mk kind children induction =>
      rw [requests_mk, postorder_mk, List.length_append, List.length_append, List.length_flatMap,
        List.length_flatMap,
        List.map_congr_left fun child member => induction child member _]
      rfl

/-- Does the recorder keep the requests of a node wherever it stands? -/
def Recorded (node : Node) : Prop :=
  ∀ position earlier, (node.render recorder position).run earlier =
    .ok ((), earlier ++ node.requests position)

theorem run_renderAll_recorder {nodes : List Node} (each : ∀ node ∈ nodes, node.Recorded)
    (position : Position) (earlier : List Request) :
    (renderAll recorder position nodes).run earlier =
      .ok (nodes.map fun _ => (), earlier ++ nodes.flatMap (requests position)) := by
  induction nodes generalizing earlier with
  | nil => rw [List.flatMap_nil, List.append_nil]; rfl
  | cons node nodes induction =>
      rw [List.forall_mem_cons] at each
      rw [run_renderAll_cons_of_ok (each.1 position earlier) (induction each.2 _), List.map_cons,
        List.flatMap_cons, List.append_assoc]

theorem run_renderEnds_recorder {left right : Node} (first : left.Recorded)
    (second : right.Recorded) (position : Position) (earlier : List Request) :
    (renderEnds recorder position [left, right]).run earlier =
      .ok (((), ()), earlier ++ [left, right].flatMap (requests position)) := by
  rw [run_renderEnds_of_ok (first position earlier) (second position _), List.flatMap_cons,
    List.flatMap_singleton, List.append_assoc]

/-- After what a node renders the recorder keeps the request of the node. -/
theorem run_record {Value : Type} {rendered : Descent (List Request) Value} {value : Value}
    {earlier kept : List Request} (request : Value → Request)
    (run : rendered.run earlier = .ok (value, kept)) :
    (rendered >>= fun value => Descent.perform (record (request value))).run earlier =
      .ok ((), kept ++ [request value]) := by
  rw [Descent.run_bind_of_ok run]
  rfl

/-- In a body whose operators have their operands the recorder keeps one request for each node. -/
theorem recorded_of_hasOperands {body : Node} (complete : body.HasOperands) : body.Recorded := by
  induction body with
  | mk kind children induction =>
      intro position earlier
      obtain ⟨here, below⟩ := hasOperands_mk.mp complete
      have each : ∀ child ∈ children, child.Recorded := fun child member =>
        induction child member (below child member)
      have row := run_renderAll_recorder each (position.below kind children) earlier
      rw [requests_mk, ← List.append_assoc]
      cases kind with
      | block | set | alternative | sequence =>
          refine (run_record (fun _ => _) row).trans ?_
          rw [List.length_map]
          rfl
      | optional | plus | star | negation =>
          obtain ⟨operand, rfl⟩ := List.length_eq_one_iff.mp (here 1 rfl)
          rw [List.forall_mem_singleton] at each
          rw [List.flatMap_singleton]
          exact run_record (fun _ => _) (each _ earlier)
      | range =>
          obtain ⟨left, right, rfl⟩ := List.length_eq_two.mp (here 2 rfl)
          have first := each left List.mem_cons_self
          have second := each right (List.mem_cons_of_mem left List.mem_cons_self)
          exact run_record (fun _ => _) (run_renderEnds_recorder first second _ earlier)
      | terminal | ruleRef | charSet | predicate | placeholder =>
          obtain rfl := List.length_eq_zero_iff.mp (here 0 rfl)
          rw [List.flatMap_nil, List.append_nil]
          rfl

end Node

/-- The trace of a rule holds the requests of its body between the announcement and the closing of the
rule. -/
theorem Rule.trace_eq {rule : Rule} (complete : rule.body.HasOperands) :
    rule.trace = .ok (.enter rule.kind rule.name :: rule.body.requests Position.body ++
      [.rule 1 rule.name rule.line]) := by
  have run := Node.recorded_of_hasOperands complete Position.body [.enter rule.kind rule.name]
  have announced : ((recorder.enter rule).run []).2 = [.enter rule.kind rule.name] := rfl
  rw [Rule.trace, Rule.run_render_of_ok (announced ▸ run)]
  rfl

end Rulebook
