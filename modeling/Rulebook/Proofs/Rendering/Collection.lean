import Rulebook.Proofs.Grammar.Tips
import Rulebook.Proofs.Rendering.Simulation

/-!
# Collected tips

The plainest renderer collects the tips of bodies.  A renderer that keeps in step with it renders
every body to something that is told by the tips of the body, and reaches a state that is told by the
tips of all bodies so far.
-/

namespace Rulebook

/-- Answers with a tip and adds it to those that have been collected. -/
def collect (tip : NodeKind) : StateM (List NodeKind) (List NodeKind) :=
  fun earlier => ([tip], earlier ++ [tip])

/-- The renderer that collects tips: a node renders to its tips, and the state holds all tips so
far. -/
def collector : Renderer (List NodeKind) (List NodeKind) where
  enter _ := return
  optional _ operand := return operand
  plus _ operand := return operand
  star _ operand := return operand
  negation operand := return operand
  range left right := return left ++ right
  rule body _ _ := return body.flatten
  block _ pieces := return pieces.flatten
  set _ pieces := return pieces.flatten
  alternative _ pieces := return pieces.flatten
  sequence pieces := return pieces.flatten
  terminal shown := collect (.terminal shown)
  ruleRef name := collect (.ruleRef name)
  charSet body := collect (.charSet body)
  placeholder := collect .placeholder
  predicate := collect .predicate

namespace Node

/-- Does the collector find exactly the tips of a node, wherever it stands? -/
def IsCollected (node : Node) : Prop :=
  ∀ position earlier, (node.render collector position).run earlier =
    .ok (node.tips, earlier ++ node.tips)

theorem run_renderAll_collector {nodes : List Node} (each : ∀ node ∈ nodes, node.IsCollected)
    (position : Position) (earlier : List NodeKind) :
    (renderAll collector position nodes).run earlier =
      .ok (nodes.map tips, earlier ++ nodes.flatMap tips) := by
  induction nodes generalizing earlier with
  | nil =>
      rw [renderAll, List.flatMap_nil, List.append_nil]
      rfl
  | cons node nodes induction =>
      rw [List.forall_mem_cons] at each
      rw [run_renderAll_cons_of_ok (each.1 position earlier) (induction each.2 _), List.map_cons,
        List.flatMap_cons, ← List.append_assoc]

theorem run_renderFirst_collector {node : Node} (collected : node.IsCollected)
    (position : Position) (operator : NodeKind) (earlier : List NodeKind) :
    (renderFirst collector position operator [node]).run earlier =
      .ok (node.tips, earlier ++ node.tips) :=
  collected position earlier

theorem run_renderEnds_collector {left right : Node} (first : left.IsCollected)
    (second : right.IsCollected) (position : Position) (earlier : List NodeKind) :
    (renderEnds collector position [left, right]).run earlier =
      .ok ((left.tips, right.tips), earlier ++ (left.tips ++ right.tips)) := by
  rw [run_renderEnds_of_ok (first position earlier) (second position _), List.append_assoc]

/-- A body whose operators have their operands renders to its tips. -/
theorem isCollected_of_hasOperands {body : Node} (complete : body.HasOperands) :
    body.IsCollected := by
  induction body with
  | mk kind children induction =>
      intro position earlier
      obtain ⟨here, below⟩ := hasOperands_mk.mp complete
      have each : ∀ child ∈ children, child.IsCollected := fun child member =>
        induction child member (below child member)
      cases kind with
      | block | set | alternative | sequence =>
          rw [render, Descent.run_bind_of_ok (run_renderAll_collector each _ earlier),
            tips_of_not_isLeaf children rfl]
          rfl
      | optional | plus | star | negation =>
          obtain ⟨operand, rfl⟩ := List.length_eq_one_iff.mp (here 1 rfl)
          rw [List.forall_mem_singleton] at each
          rw [render, Descent.run_bind_of_ok (run_renderFirst_collector each _ _ earlier),
            tips_of_not_isLeaf _ rfl, List.flatMap_singleton]
          rfl
      | range =>
          obtain ⟨left, right, rfl⟩ := List.length_eq_two.mp (here 2 rfl)
          have first := each left List.mem_cons_self
          have second := each right (List.mem_cons_of_mem left List.mem_cons_self)
          rw [render, Descent.run_bind_of_ok (run_renderEnds_collector first second _ earlier),
            tips_of_not_isLeaf _ rfl, List.flatMap_cons, List.flatMap_singleton]
          rfl
      | terminal | ruleRef | charSet | predicate | placeholder =>
          rw [tips_of_isLeaf complete rfl]
          rfl

end Node

section

variable {State Piece : Type} {renderer : Renderer State Piece}
  {states : State → List NodeKind → Prop}

/-- A renderer that keeps in step with the collector renders a body to what its tips tell. -/
theorem Renderer.Matches.exists_render {pieces : Piece → List NodeKind → Prop}
    (alike : Renderer.Matches (fun _ => True) states pieces renderer collector) {body : Node}
    (complete : body.HasOperands) (position : Position) {start : State} {earlier : List NodeKind}
    (related : states start earlier) :
    ∃ piece reached, (body.render renderer position).run start = .ok (piece, reached) ∧
      pieces piece body.tips ∧ states reached (earlier ++ body.tips) := by
  have kinds : body.AllKinds fun _ => True := fun _ _ => trivial
  have outcome := alike.render kinds position start earlier related
  rw [Node.isCollected_of_hasOperands complete position earlier] at outcome
  cases run : (body.render renderer position).run start with
  | error fault =>
      rw [run] at outcome
      cases outcome
  | ok result =>
      rw [run] at outcome
      cases outcome with
      | ok value state => exact ⟨_, _, rfl, value, state⟩

/-- The tips of the bodies of some rules. -/
def tipsOf (rules : List Rule) : List NodeKind :=
  rules.flatMap fun rule => rule.body.tips

/-- Does a renderer render a rule from the state after some tips to an entry, and reach the state
after the tips of the rule? -/
def RendersTo (renderer : Renderer State Piece) (states : State → List NodeKind → Prop)
    (entries : Rule → Piece → Prop) (rule : Rule) : Prop :=
  ∀ {start : State} {earlier : List NodeKind}, states start earlier →
    ∃ entry reached, (rule.render renderer).run start = .ok (entry, reached) ∧ entries rule entry ∧
      states reached (earlier ++ rule.body.tips)

/-- Rules that are rendered one by one to their entries are so rendered in a row. -/
theorem exists_renderRules {entries : Rule → Piece → Prop} {rules : List Rule}
    (each : ∀ rule ∈ rules, RendersTo renderer states entries rule) {start : State}
    {earlier : List NodeKind} (related : states start earlier) :
    ∃ rendered reached, (renderRules renderer rules).run start = .ok (rendered, reached) ∧
      rendered.map Prod.fst = rules ∧ (∀ entry ∈ rendered, entries entry.1 entry.2) ∧
        states reached (earlier ++ tipsOf rules) := by
  induction rules generalizing start earlier with
  | nil => exact ⟨[], start, rfl, rfl, nofun, by simpa [tipsOf] using related⟩
  | cons rule rules induction =>
      rw [List.forall_mem_cons] at each
      obtain ⟨entry, middle, first, described, between⟩ := each.1 related
      obtain ⟨rendered, reached, rest, same, all, after⟩ := induction each.2 between
      refine ⟨(rule, entry) :: rendered, reached, ?_, ?_, ?_, ?_⟩
      · rw [renderRules, Descent.run_bind_of_ok first, Descent.run_bind_of_ok rest]
        rfl
      · rw [List.map_cons, same]
      · exact List.forall_mem_cons.mpr ⟨described, all⟩
      · rw [List.append_assoc] at after
        exact after

end
end Rulebook
