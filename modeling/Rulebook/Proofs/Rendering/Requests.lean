import Rulebook.Proofs.Rendering.Recording

/-!
# Requests of a descent

A rule whose operators have their operands is announced once.  Then every node of its body makes one
request, the children of a node from left to right and before the node, and in the end the rule is
closed.  Every renderer is given the same requests.
-/

namespace Rulebook

/-- The kind and the number of children of the node that makes a request.  The announcement and the
closing of a rule are made by no node. -/
def Request.shape? : Request → Option (NodeKind × Nat)
  | enter _ _ | rule _ _ _ => none
  | optional greedy => some (.optional greedy, 1)
  | plus greedy => some (.plus greedy, 1)
  | star greedy => some (.star greedy, 1)
  | negation => some (.negation, 1)
  | range => some (.range, 2)
  | block _ count => some (.block, count)
  | set _ count => some (.set, count)
  | alternative _ count => some (.alternative, count)
  | sequence count => some (.sequence, count)
  | terminal shown => some (.terminal shown, 0)
  | ruleRef name => some (.ruleRef name, 0)
  | charSet body => some (.charSet body, 0)
  | placeholder => some (.placeholder, 0)
  | predicate => some (.predicate, 0)

/-! ### The requests of a body -/

namespace Node

/-- Do some requests come from the nodes of a row of trees, each after its own children? -/
def AskedBy (nodes : List Node) (requests : List Request) : Prop :=
  requests.map Request.shape? = ((nodes.flatMap postorder).map shape).map some

/-- A node that has its operands asks for its own kind and number of children. -/
theorem shape?_request {node : Node} (complete : node.HasOperands) (position : Position) :
    (node.request position).shape? = some node.shape := by
  obtain ⟨kind, children⟩ := node
  have here := (hasOperands_mk.mp complete).1
  cases kind with
  | block | set | alternative | sequence => rfl
  | optional | plus | star | negation => exact congrArg (fun count => some (_, count)) (here 1 rfl).symm
  | range => exact congrArg (fun count => some (_, count)) (here 2 rfl).symm
  | terminal | ruleRef | charSet | predicate | placeholder =>
      exact congrArg (fun count => some (_, count)) (here 0 rfl).symm

/-- In a body whose operators have their operands every node makes one request after its children. -/
theorem askedBy_requests {body : Node} (complete : body.HasOperands) (position : Position) :
    AskedBy [body] (body.requests position) := by
  rw [AskedBy, List.flatMap_singleton]
  induction body generalizing position with
  | mk kind children induction =>
      have below : ∀ child ∈ children, ((child.requests (position.below kind children)).map
          Request.shape? = (child.postorder.map shape).map some) := fun child member =>
        induction child member ((hasOperands_mk.mp complete).2 child member) _
      simp only [requests_mk, postorder_mk, List.map_append, List.map_flatMap, List.map_singleton,
        shape?_request complete, List.flatMap_congr below]

end Node

/-- Rendering a rule whose operators have their operands makes one announcement, one request for each
node of the body, after those for its children, and one request that closes the rule. -/
theorem Rule.exists_trace {rule : Rule} (complete : rule.body.HasOperands) :
    ∃ requests, rule.trace = .ok (.enter rule.kind rule.name :: requests ++
        [.rule 1 rule.name rule.line]) ∧
      Node.AskedBy [rule.body] requests :=
  ⟨_, Rule.trace_eq complete, Node.askedBy_requests complete Position.body⟩

/-! ### The requests to any renderer -/

section

variable {State Piece : Type}

/-- A step that is written down before it is made. -/
def noting {Value : Type} (request : Request) (step : StateM State Value) :
    StateM (List Request × State) Value := fun state =>
  ((step.run state.2).1, (state.1 ++ [request], (step.run state.2).2))

namespace Renderer

/-- The renderer that answers like another and writes down every request that it is given. -/
def recording (renderer : Renderer State Piece) : Renderer (List Request × State) Piece where
  enter rule := noting (.enter rule.kind rule.name) (renderer.enter rule)
  optional greedy operand := noting (.optional greedy) (renderer.optional greedy operand)
  plus greedy operand := noting (.plus greedy) (renderer.plus greedy operand)
  star greedy operand := noting (.star greedy) (renderer.star greedy operand)
  negation operand := noting .negation (renderer.negation operand)
  range left right := noting .range (renderer.range left right)
  rule body name line := noting (.rule body.length name line) (renderer.rule body name line)
  block grouping pieces := noting (.block grouping pieces.length) (renderer.block grouping pieces)
  set grouping pieces := noting (.set grouping pieces.length) (renderer.set grouping pieces)
  alternative grouping pieces :=
    noting (.alternative grouping pieces.length) (renderer.alternative grouping pieces)
  sequence pieces := noting (.sequence pieces.length) (renderer.sequence pieces)
  terminal shown := noting (.terminal shown) (renderer.terminal shown)
  ruleRef name := noting (.ruleRef name) (renderer.ruleRef name)
  charSet body := noting (.charSet body) (renderer.charSet body)
  placeholder := noting .placeholder renderer.placeholder
  predicate := noting .predicate renderer.predicate

/-- Has the same been recorded? -/
def SameRecord (first : List Request × State) (second : List Request) : Prop :=
  first.1 = second

/-- Is the renderer that is recorded in the same state? -/
def SameState (first : List Request × State) (second : State) : Prop :=
  first.2 = second

theorem noting_record {Value : Type} {request other : Request} (alike : request = other)
    (step : StateM State Value) :
    StepsMatch SameRecord (fun _ _ => True) (noting request step) (record other) :=
  fun _ _ same => ⟨trivial, by rw [← alike]; exact congrArg (· ++ [request]) same⟩

theorem noting_self {Value : Type} (request : Request) (step : StateM State Value) :
    StepsMatch SameState Eq (noting request step) step :=
  fun _ _ same => same ▸ ⟨rfl, rfl⟩

/-- The requests that are written down are those of the recorder. -/
theorem recording_matches_recorder (renderer : Renderer State Piece) :
    Matches (fun _ => True) SameRecord (fun _ _ => True) renderer.recording recorder where
  optional _ _ _ _ _ := noting_record rfl _
  plus _ _ _ _ _ := noting_record rfl _
  star _ _ _ _ _ := noting_record rfl _
  negation _ _ _ _ := noting_record rfl _
  range _ _ _ _ _ _ _ := noting_record rfl _
  block grouping _ _ _ all := noting_record (congrArg (.block grouping) all.length_eq) _
  set grouping _ _ _ all := noting_record (congrArg (.set grouping) all.length_eq) _
  alternative grouping _ _ _ all :=
    noting_record (congrArg (.alternative grouping) all.length_eq) _
  sequence _ _ _ all := noting_record (congrArg .sequence all.length_eq) _
  terminal _ _ := noting_record rfl _
  ruleRef _ _ := noting_record rfl _
  charSet _ _ := noting_record rfl _
  placeholder _ := noting_record rfl _
  predicate _ := noting_record rfl _

/-- To write down the requests changes no answer. -/
theorem recording_matches_self (renderer : Renderer State Piece) :
    Matches (fun _ => True) SameState Eq renderer.recording renderer where
  optional _ _ _ _ operand := operand ▸ noting_self _ _
  plus _ _ _ _ operand := operand ▸ noting_self _ _
  star _ _ _ _ operand := operand ▸ noting_self _ _
  negation _ _ _ operand := operand ▸ noting_self _ _
  range _ _ _ _ _ left right := left ▸ right ▸ noting_self _ _
  block _ _ _ _ all := by
    rw [List.forall₂_eq_eq_eq] at all
    exact all ▸ noting_self _ _
  set _ _ _ _ all := by
    rw [List.forall₂_eq_eq_eq] at all
    exact all ▸ noting_self _ _
  alternative _ _ _ _ all := by
    rw [List.forall₂_eq_eq_eq] at all
    exact all ▸ noting_self _ _
  sequence _ _ _ all := by
    rw [List.forall₂_eq_eq_eq] at all
    exact all ▸ noting_self _ _
  terminal _ _ := noting_self _ _
  ruleRef _ _ := noting_self _ _
  charSet _ _ := noting_self _ _
  placeholder _ := noting_self _ _
  predicate _ := noting_self _ _

/-- Whatever a renderer answers, it is given the requests of the trace when a rule is rendered. -/
theorem exists_run_recording (renderer : Renderer State Piece) {rule : Rule}
    (complete : rule.body.HasOperands) {trace : List Request} (traced : rule.trace = .ok trace)
    (state : State) :
    ∃ piece reached, (rule.render renderer).run state = .ok (piece, reached) ∧
      (rule.render renderer.recording).run ([], state) = .ok (piece, (trace, reached)) := by
  have kinds : rule.body.AllKinds fun _ => True := fun _ _ => trivial
  have recorded : Descent.Match SameRecord (fun _ _ => True) (rule.render renderer.recording)
      (rule.render recorder) :=
    (recording_matches_recorder renderer).rule kinds (fun _ _ same => (noting_record rfl _ _ _ same).2)
      fun _ _ _ _ _ same => noting_record rfl _ _ _ same
  have answered : Descent.Match SameState Eq (rule.render renderer.recording)
      (rule.render renderer) :=
    (recording_matches_self renderer).rule kinds (fun _ _ same => (noting_self _ _ _ _ same).2)
      fun _ _ piece _ _ same => piece ▸ noting_self _ _ _ _ same
  obtain ⟨⟨piece, reached⟩, run⟩ := Rule.render_succeeds renderer complete state
  refine ⟨piece, reached, run, ?_⟩
  have same_answer := answered ([], state) state rfl
  have same_record := recorded ([], state) [] rfl
  rw [run] at same_answer
  rw [Rule.trace] at traced
  generalize (rule.render renderer.recording).run ([], state) = outcome at same_answer same_record ⊢
  generalize (rule.render recorder).run [] = requests at same_record traced
  cases same_record with
  | error fault => cases same_answer
  | ok _ same =>
      cases same_answer with
      | ok equal also =>
          cases traced
          rw [equal, ← show _ = _ from same, ← show _ = _ from also]

end Renderer
end
end Rulebook
