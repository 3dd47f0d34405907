import Mathlib.Data.List.Forall2
import Rulebook.Proofs.Grammar.Arity

/-!
# Renderers side by side

Two renderers that answer every single request alike answer whole bodies alike, for the descent asks
both for the same things in the same order.  A descent through a body whose operators have their
operands comes to an end without a fault.
-/

namespace Rulebook

section

variable {First Second : Type} {states : First → Second → Prop}

/-- Two steps that lead from matching states to matching pieces and matching states. -/
def StepsMatch {Left Right : Type} (states : First → Second → Prop) (pieces : Left → Right → Prop)
    (first : StateM First Left) (second : StateM Second Right) : Prop :=
  ∀ start origin, states start origin →
    pieces (first.run start).1 (second.run origin).1 ∧
      states (first.run start).2 (second.run origin).2

theorem StepsMatch.pure {Left Right : Type} {pieces : Left → Right → Prop} {left : Left}
    {right : Right} (alike : pieces left right) :
    StepsMatch states pieces (Pure.pure left) (Pure.pure right) :=
  fun _ _ related => ⟨alike, related⟩

theorem StepsMatch.refl {State Piece : Type} (step : StateM State Piece) :
    StepsMatch Eq Eq step step := by
  rintro state _ rfl
  exact ⟨rfl, rfl⟩

namespace Descent

/-- Two outcomes of a descent: matching values and states, or the same fault. -/
inductive Matches {Left Right : Type} (states : First → Second → Prop)
    (values : Left → Right → Prop) :
    Except MissingOperand (Left × First) → Except MissingOperand (Right × Second) → Prop where
  /-- Both descents come to an end. -/
  | ok {left : Left} {right : Right} {start : First} {origin : Second}
      (value : values left right) (state : states start origin) :
      Matches states values (.ok (left, start)) (.ok (right, origin))
  /-- Both descents stop at the same operator. -/
  | error (fault : MissingOperand) : Matches states values (.error fault) (.error fault)

/-- Two descents that have matching outcomes from matching states. -/
def Match {Left Right : Type} (states : First → Second → Prop) (values : Left → Right → Prop)
    (first : Descent First Left) (second : Descent Second Right) : Prop :=
  ∀ start origin, states start origin →
    Matches states values (first.run start) (second.run origin)

theorem Match.perform {Left Right : Type} {pieces : Left → Right → Prop}
    {first : StateM First Left} {second : StateM Second Right}
    (alike : StepsMatch states pieces first second) :
    Match states pieces (Descent.perform first) (Descent.perform second) :=
  fun start origin related => .ok (alike start origin related).1 (alike start origin related).2

theorem Match.pure {Left Right : Type} {values : Left → Right → Prop} {left : Left} {right : Right}
    (value : values left right) :
    Match states values (Pure.pure left) (Pure.pure right) :=
  fun _ _ related => .ok value related

theorem Match.missing {Left Right : Type} {values : Left → Right → Prop} (operator : NodeKind) :
    Match states values (Descent.missing operator) (Descent.missing operator) :=
  fun _ _ _ => .error ⟨operator⟩

theorem Match.bind {Left Right Left' Right' : Type} {values : Left → Right → Prop}
    {results : Left' → Right' → Prop} {first : Descent First Left}
    {second : Descent Second Right} {next : Left → Descent First Left'}
    {following : Right → Descent Second Right'} (alike : Match states values first second)
    (continued : ∀ left right, values left right →
      Match states results (next left) (following right)) :
    Match states results (first >>= next) (second >>= following) := by
  intro start origin related
  simp only [StateT.run_bind]
  have outcome := alike start origin related
  generalize first.run start = left at outcome
  generalize second.run origin = right at outcome
  cases outcome with
  | ok value state => exact continued _ _ value _ _ state
  | error fault => exact .error fault

theorem Match.mono {Left Right : Type} {values wider : Left → Right → Prop}
    {first : Descent First Left} {second : Descent Second Right}
    (alike : Match states values first second)
    (widen : ∀ left right, values left right → wider left right) :
    Match states wider first second := by
  intro start origin related
  have outcome := alike start origin related
  generalize first.run start = left at outcome ⊢
  generalize second.run origin = right at outcome ⊢
  cases outcome with
  | ok value state => exact .ok (widen _ _ value) state
  | error fault => exact .error fault

theorem Match.and {Left Right : Type} {values more : Left → Right → Prop}
    {first : Descent First Left} {second : Descent Second Right}
    (alike : Match states values first second) (also : Match states more first second) :
    Match states (fun left right => values left right ∧ more left right) first second := by
  intro start origin related
  have outcome := alike start origin related
  have further := also start origin related
  generalize first.run start = left at outcome further ⊢
  generalize second.run origin = right at outcome further ⊢
  cases outcome with
  | ok value state =>
      cases further with
      | ok other _ => exact .ok ⟨value, other⟩ state
  | error fault => exact .error fault

/-- Descents with equal outcomes are equal. -/
theorem Match.eq {State Value : Type} {first second : Descent State Value}
    (alike : Match Eq Eq first second) : first = second := by
  funext state
  have outcome := alike state state rfl
  simp only [StateT.run] at outcome
  generalize first state = left at outcome ⊢
  generalize second state = right at outcome ⊢
  cases outcome with
  | ok value reached => rw [value, reached]
  | error fault => rfl

end Descent
end

/-- Two renderers that answer the same requests with matching pieces, for nodes of some kinds. -/
structure Renderer.Matches {First Second Left Right : Type} (allowed : NodeKind → Prop)
    (states : First → Second → Prop) (pieces : Left → Right → Prop)
    (first : Renderer First Left) (second : Renderer Second Right) : Prop where
  /-- At most one occurrence. -/
  optional : ∀ greedy left right, allowed (.optional greedy) → pieces left right →
    StepsMatch states pieces (first.optional greedy left) (second.optional greedy right)
  /-- At least one occurrence. -/
  plus : ∀ greedy left right, allowed (.plus greedy) → pieces left right →
    StepsMatch states pieces (first.plus greedy left) (second.plus greedy right)
  /-- Any number of occurrences. -/
  star : ∀ greedy left right, allowed (.star greedy) → pieces left right →
    StepsMatch states pieces (first.star greedy left) (second.star greedy right)
  /-- Anything but the operand. -/
  negation : ∀ left right, allowed .negation → pieces left right →
    StepsMatch states pieces (first.negation left) (second.negation right)
  /-- The characters between two ends. -/
  range : ∀ left right left' right', allowed .range → pieces left right → pieces left' right' →
    StepsMatch states pieces (first.range left left') (second.range right right')
  /-- A choice between alternatives. -/
  block : ∀ grouping lefts rights, allowed .block → List.Forall₂ pieces lefts rights →
    StepsMatch states pieces (first.block grouping lefts) (second.block grouping rights)
  /-- A choice between single terminals. -/
  set : ∀ grouping lefts rights, allowed .set → List.Forall₂ pieces lefts rights →
    StepsMatch states pieces (first.set grouping lefts) (second.set grouping rights)
  /-- One alternative. -/
  alternative : ∀ grouping lefts rights, allowed .alternative →
    List.Forall₂ pieces lefts rights →
    StepsMatch states pieces (first.alternative grouping lefts)
      (second.alternative grouping rights)
  /-- Juxtaposed elements. -/
  sequence : ∀ lefts rights, allowed .sequence → List.Forall₂ pieces lefts rights →
    StepsMatch states pieces (first.sequence lefts) (second.sequence rights)
  /-- A token or a spelling. -/
  terminal : ∀ shown, allowed (.terminal shown) →
    StepsMatch states pieces (first.terminal shown) (second.terminal shown)
  /-- A reference to a parser rule. -/
  ruleRef : ∀ name, allowed (.ruleRef name) →
    StepsMatch states pieces (first.ruleRef name) (second.ruleRef name)
  /-- A set of characters. -/
  charSet : ∀ body, allowed (.charSet body) →
    StepsMatch states pieces (first.charSet body) (second.charSet body)
  /-- The place of an embedded action. -/
  placeholder : allowed .placeholder → StepsMatch states pieces first.placeholder second.placeholder
  /-- A semantic condition. -/
  predicate : allowed .predicate → StepsMatch states pieces first.predicate second.predicate

namespace Renderer.Matches

variable {First Second Left Right : Type} {allowed : NodeKind → Prop}
  {states : First → Second → Prop} {pieces : Left → Right → Prop}
  {first : Renderer First Left} {second : Renderer Second Right}

theorem renderAll {position : Position} {nodes : List Node}
    (alike : ∀ node ∈ nodes, Descent.Match states pieces
      (Node.render first position node) (Node.render second position node)) :
    Descent.Match states (List.Forall₂ pieces) (Node.renderAll first position nodes)
      (Node.renderAll second position nodes) := by
  induction nodes with
  | nil => exact .pure .nil
  | cons node nodes induction =>
      simp only [Node.renderAll]
      refine (alike node List.mem_cons_self).bind fun left right head => ?_
      refine (induction fun other member => alike other (List.mem_cons_of_mem node member)).bind
        fun lefts rights tail => ?_
      exact .pure (.cons head tail)

theorem renderFirst {position : Position} {operator : NodeKind} {nodes : List Node}
    (alike : ∀ node ∈ nodes, Descent.Match states pieces
      (Node.render first position node) (Node.render second position node)) :
    Descent.Match states pieces (Node.renderFirst first position operator nodes)
      (Node.renderFirst second position operator nodes) := by
  cases nodes with
  | nil => exact .missing operator
  | cons node nodes => exact alike node List.mem_cons_self

theorem renderEnds {position : Position} {nodes : List Node}
    (alike : ∀ node ∈ nodes, Descent.Match states pieces
      (Node.render first position node) (Node.render second position node)) :
    Descent.Match states (fun left right => pieces left.1 right.1 ∧ pieces left.2 right.2)
      (Node.renderEnds first position nodes) (Node.renderEnds second position nodes) := by
  cases nodes with
  | nil => exact .missing .range
  | cons node nodes =>
      simp only [Node.renderEnds]
      refine (alike node List.mem_cons_self).bind fun left right head => ?_
      refine (renderFirst fun other member => alike other (List.mem_cons_of_mem node member)).bind
        fun left' right' tail => ?_
      exact .pure ⟨head, tail⟩

/-- Matching renderers render a body of the kinds that they agree on alike, wherever it stands. -/
theorem render (alike : Renderer.Matches allowed states pieces first second) {body : Node}
    (kinds : body.AllKinds allowed) (position : Position) :
    Descent.Match states pieces (body.render first position) (body.render second position) := by
  induction body generalizing position with
  | mk kind children induction =>
      obtain ⟨here, below⟩ := Node.allKinds_mk.mp kinds
      have children_alike : ∀ child ∈ children,
          Descent.Match states pieces (child.render first (position.below kind children))
            (child.render second (position.below kind children)) :=
        fun child member => induction child member (below child member) _
      cases kind with
      | block =>
          exact (renderAll children_alike).bind fun _ _ all => .perform (alike.block _ _ _ here all)
      | set =>
          exact (renderAll children_alike).bind fun _ _ all => .perform (alike.set _ _ _ here all)
      | alternative =>
          exact (renderAll children_alike).bind fun _ _ all =>
            .perform (alike.alternative _ _ _ here all)
      | sequence =>
          exact (renderAll children_alike).bind fun _ _ all => .perform (alike.sequence _ _ here all)
      | optional greedy =>
          exact (renderFirst children_alike).bind fun _ _ operand =>
            .perform (alike.optional greedy _ _ here operand)
      | plus greedy =>
          exact (renderFirst children_alike).bind fun _ _ operand =>
            .perform (alike.plus greedy _ _ here operand)
      | star greedy =>
          exact (renderFirst children_alike).bind fun _ _ operand =>
            .perform (alike.star greedy _ _ here operand)
      | negation =>
          exact (renderFirst children_alike).bind fun _ _ operand =>
            .perform (alike.negation _ _ here operand)
      | range =>
          exact (renderEnds children_alike).bind fun _ _ ends =>
            .perform (alike.range _ _ _ _ here ends.1 ends.2)
      | terminal shown => exact .perform (alike.terminal shown here)
      | ruleRef name => exact .perform (alike.ruleRef name here)
      | charSet text => exact .perform (alike.charSet text here)
      | predicate => exact .perform (alike.predicate here)
      | placeholder => exact .perform (alike.placeholder here)

/-- Matching renderers that announce and close a rule alike render the rule alike.  What matches before
and after the rule may be less than what matches within its body. -/
theorem rule {outer : First → Second → Prop} {entries : Left → Right → Prop}
    (alike : Renderer.Matches allowed states pieces first second) {rule : Rule}
    (kinds : rule.body.AllKinds allowed)
    (announced : ∀ start origin, outer start origin →
      states ((first.enter rule).run start).2 ((second.enter rule).run origin).2)
    (closed : ∀ left right, pieces left right → ∀ start origin, states start origin →
      entries ((first.rule [left] rule.name rule.line).run start).1
          ((second.rule [right] rule.name rule.line).run origin).1 ∧
        outer ((first.rule [left] rule.name rule.line).run start).2
          ((second.rule [right] rule.name rule.line).run origin).2) :
    Descent.Match outer entries (rule.render first) (rule.render second) := by
  intro start origin related
  have outcome := alike.render kinds Position.body _ _ (announced start origin related)
  have split (State Piece : Type) (renderer : Renderer State Piece) (state : State) :
      (rule.render renderer).run state =
        ((rule.body.render renderer Position.body).run ((renderer.enter rule).run state).2).bind
          fun body => .ok ((renderer.rule [body.1] rule.name rule.line).run body.2) := rfl
  rw [split, split]
  generalize (rule.body.render first Position.body).run _ = left at outcome ⊢
  generalize (rule.body.render second Position.body).run _ = right at outcome ⊢
  cases outcome with
  | ok value state =>
      obtain ⟨entry, after⟩ := closed _ _ value _ _ state
      exact .ok entry after
  | error fault => exact .error fault

end Renderer.Matches

section

variable {State Piece : Type} (renderer : Renderer State Piece) (enter : Rule → StateM State Unit)

/-- Announcements have no part in the answers to requests. -/
theorem Renderer.matches_with_enter :
    Renderer.Matches (fun _ => True) Eq Eq { renderer with enter := enter } renderer where
  optional _ _ _ _ operand := operand ▸ .refl _
  plus _ _ _ _ operand := operand ▸ .refl _
  star _ _ _ _ operand := operand ▸ .refl _
  negation _ _ _ operand := operand ▸ .refl _
  range _ _ _ _ _ left right := left ▸ right ▸ .refl _
  block _ _ _ _ all := by
    rw [List.forall₂_eq_eq_eq] at all
    exact all ▸ .refl _
  set _ _ _ _ all := by
    rw [List.forall₂_eq_eq_eq] at all
    exact all ▸ .refl _
  alternative _ _ _ _ all := by
    rw [List.forall₂_eq_eq_eq] at all
    exact all ▸ .refl _
  sequence _ _ _ all := by
    rw [List.forall₂_eq_eq_eq] at all
    exact all ▸ .refl _
  terminal _ _ := .refl _
  ruleRef _ _ := .refl _
  charSet _ _ := .refl _
  placeholder _ := .refl _
  predicate _ := .refl _

variable {renderer enter} in
/-- A rule that is announced alike is rendered alike. -/
theorem Rule.render_with_enter {rule : Rule} (same : enter rule = renderer.enter rule) :
    rule.render { renderer with enter := enter } = rule.render renderer := by
  have kinds : rule.body.AllKinds fun _ => True := fun _ _ => trivial
  have body := (renderer.matches_with_enter enter).render kinds Position.body
  rw [Rule.render, Rule.render, body.eq, ← same]

end

/-- Rules that are rendered alike one by one are rendered alike in a row. -/
theorem Descent.Match.renderRules {First Second Left Right : Type} {states : First → Second → Prop}
    {entries : Rule → Left → Right → Prop} {first : Renderer First Left}
    {second : Renderer Second Right} {rules : List Rule}
    (each : ∀ rule ∈ rules, Match states (entries rule) (rule.render first) (rule.render second)) :
    Match states (List.Forall₂ fun left right => left.1 = right.1 ∧ entries left.1 left.2 right.2)
      (renderRules first rules) (renderRules second rules) := by
  induction rules with
  | nil => exact .pure .nil
  | cons rule rules induction =>
      simp only [Rulebook.renderRules]
      refine (each rule List.mem_cons_self).bind fun left right entry => ?_
      refine (induction fun other member => each other (List.mem_cons_of_mem rule member)).bind
        fun lefts rights later => ?_
      exact .pure (.cons ⟨rfl, entry⟩ later)

/-- Two equal values that have a property. -/
def IsSame {Value : Type} (holds : Value → Prop) (left right : Value) : Prop :=
  left = right ∧ holds left

theorem IsSame.forall₂ {Value : Type} {holds : Value → Prop} {lefts rights : List Value}
    (same : List.Forall₂ (IsSame holds) lefts rights) :
    lefts = rights ∧ ∀ value ∈ lefts, holds value := by
  induction same with
  | nil => exact ⟨rfl, nofun⟩
  | cons head _ induction =>
      exact ⟨by rw [head.1, induction.1], List.forall_mem_cons.mpr ⟨head.2, induction.2⟩⟩

/-! ### Descents without a fault -/

namespace Descent

/-- Does the descent come to an end from every state? -/
def Succeeds {State Value : Type} (descent : Descent State Value) : Prop :=
  ∀ state, ∃ outcome, descent.run state = .ok outcome

variable {State Value Result : Type}

theorem Succeeds.perform (step : StateM State Value) : (Descent.perform step).Succeeds :=
  fun state => ⟨step.run state, rfl⟩

theorem Succeeds.pure (value : Value) : (Pure.pure value : Descent State Value).Succeeds :=
  fun state => ⟨(value, state), rfl⟩

/-- A descent that has come to an end goes on with its value. -/
theorem run_bind_of_ok {descent : Descent State Value} {next : Value → Descent State Result}
    {state reached : State} {value : Value} (outcome : descent.run state = .ok (value, reached)) :
    (descent >>= next).run state = (next value).run reached := by
  rw [StateT.run_bind, outcome]
  rfl

/-- What a descent in two parts comes to, its second part comes to after its first. -/
theorem run_bind_eq_ok {descent : Descent State Value} {next : Value → Descent State Result}
    {state : State} {outcome : Result × State}
    (whole : (descent >>= next).run state = .ok outcome) :
    ∃ value reached, descent.run state = .ok (value, reached) ∧
      (next value).run reached = .ok outcome := by
  rw [StateT.run_bind] at whole
  cases first : descent.run state with
  | error fault =>
      rw [first] at whole
      exact absurd whole (by nofun)
  | ok result =>
      rw [first] at whole
      exact ⟨result.1, result.2, rfl, whole⟩

theorem Succeeds.bind {descent : Descent State Value} {next : Value → Descent State Result}
    (ends : descent.Succeeds) (continued : ∀ value, (next value).Succeeds) :
    (descent >>= next).Succeeds := by
  intro state
  obtain ⟨⟨value, reached⟩, outcome⟩ := ends state
  obtain ⟨result, final⟩ := continued value reached
  exact ⟨result, (run_bind_of_ok outcome).trans final⟩

end Descent

section

variable {State Piece : Type} (renderer : Renderer State Piece)

variable {renderer} in
/-- A row is rendered from left to right. -/
theorem Node.run_renderAll_cons_of_ok {position : Position} {node : Node} {later : List Node}
    {state middle after : State} {piece : Piece} {pieces : List Piece}
    (first : (node.render renderer position).run state = .ok (piece, middle))
    (rest : (Node.renderAll renderer position later).run middle = .ok (pieces, after)) :
    (Node.renderAll renderer position (node :: later)).run state = .ok (piece :: pieces, after) := by
  rw [Node.renderAll, Descent.run_bind_of_ok first, Descent.run_bind_of_ok rest]
  rfl

variable {renderer} in
/-- The left end of a range is rendered before the right one. -/
theorem Node.run_renderEnds_of_ok {position : Position} {left right : Node}
    {state middle after : State} {first second : Piece}
    (start : (left.render renderer position).run state = .ok (first, middle))
    (stop : (right.render renderer position).run middle = .ok (second, after)) :
    (Node.renderEnds renderer position [left, right]).run state = .ok ((first, second), after) := by
  have last : (Node.renderFirst renderer position .range [right]).run middle =
      .ok (second, after) := stop
  rw [Node.renderEnds, Descent.run_bind_of_ok start, Descent.run_bind_of_ok last]
  rfl

theorem Node.renderAll_succeeds {position : Position} {nodes : List Node}
    (each : ∀ node ∈ nodes, (node.render renderer position).Succeeds) :
    (Node.renderAll renderer position nodes).Succeeds := by
  induction nodes with
  | nil => exact .pure []
  | cons node nodes induction =>
      simp only [Node.renderAll]
      refine (each node List.mem_cons_self).bind fun piece => ?_
      refine (induction fun other member => each other (List.mem_cons_of_mem node member)).bind
        fun pieces => ?_
      exact .pure (piece :: pieces)

theorem Node.renderFirst_succeeds {position : Position} {operator : NodeKind} (nodes : List Node)
    (each : ∀ node ∈ nodes, (node.render renderer position).Succeeds) (some : nodes.length ≠ 0) :
    (Node.renderFirst renderer position operator nodes).Succeeds := by
  cases nodes with
  | nil => simp at some
  | cons node nodes => exact each node List.mem_cons_self

theorem Node.renderEnds_succeeds {position : Position} {nodes : List Node}
    (each : ∀ node ∈ nodes, (node.render renderer position).Succeeds) (two : nodes.length = 2) :
    (Node.renderEnds renderer position nodes).Succeeds := by
  obtain ⟨left, right, rfl⟩ := List.length_eq_two.mp two
  simp only [Node.renderEnds]
  refine (each left (by simp)).bind fun first => ?_
  refine (renderFirst_succeeds renderer [right] ?_ (by simp)).bind fun second => ?_
  · intro node member
    exact each node (List.mem_cons_of_mem left member)
  · exact .pure (first, second)

/-- A body whose operators have their operands is rendered without a fault. -/
theorem Node.render_succeeds {body : Node} (complete : body.HasOperands) (position : Position) :
    (body.render renderer position).Succeeds := by
  induction body generalizing position with
  | mk kind children induction =>
      obtain ⟨here, below⟩ := Node.hasOperands_mk.mp complete
      have each : ∀ child ∈ children,
          (child.render renderer (position.below kind children)).Succeeds :=
        fun child member => induction child member (below child member) _
      cases kind with
      | block | set | alternative | sequence =>
          exact (renderAll_succeeds renderer each).bind fun _ => .perform _
      | optional | plus | star | negation =>
          have operand : children.length = 1 := here 1 rfl
          exact (renderFirst_succeeds renderer _ each (by omega)).bind fun _ => .perform _
      | range => exact (renderEnds_succeeds renderer each (here 2 rfl)).bind fun _ => .perform _
      | terminal | ruleRef | charSet | predicate | placeholder => exact .perform _

variable {renderer} in
/-- A rule is announced, its body is rendered, and the rule is put around it. -/
theorem Rule.run_render_of_ok {rule : Rule} {state middle : State} {piece : Piece}
    (body : (rule.body.render renderer Position.body).run ((renderer.enter rule).run state).2 =
      .ok (piece, middle)) :
    (rule.render renderer).run state = .ok ((renderer.rule [piece] rule.name rule.line).run middle) := by
  have announced : (Descent.perform (renderer.enter rule)).run state =
      .ok ((), ((renderer.enter rule).run state).2) := rfl
  rw [Rule.render, Descent.run_bind_of_ok announced, Descent.run_bind_of_ok body]
  rfl

theorem Rule.render_succeeds {rule : Rule} (complete : rule.body.HasOperands) :
    (rule.render renderer).Succeeds := by
  refine (Descent.Succeeds.perform _).bind fun _ => ?_
  exact (rule.body.render_succeeds renderer complete Position.body).bind fun _ => .perform _

/-- Rules whose operators have their operands are rendered without a fault. -/
theorem renderRules_succeeds {rules : List Rule}
    (complete : ∀ rule ∈ rules, rule.body.HasOperands) : (renderRules renderer rules).Succeeds := by
  induction rules with
  | nil => exact .pure []
  | cons rule rules induction =>
      simp only [renderRules]
      refine (Rule.render_succeeds renderer (complete rule List.mem_cons_self)).bind fun piece => ?_
      refine (induction fun other member => complete other (List.mem_cons_of_mem rule member)).bind
        fun pieces => ?_
      exact .pure ((rule, piece) :: pieces)

/-- Every rendered rule has been rendered by itself, from some state. -/
theorem renderRules_eq_ok {rules : List Rule} {state reached : State}
    {rendered : List (Rule × Piece)}
    (run : (renderRules renderer rules).run state = .ok (rendered, reached)) :
    rendered.map Prod.fst = rules ∧
      ∀ entry ∈ rendered, ∃ start stop, (entry.1.render renderer).run start = .ok (entry.2, stop) := by
  induction rules generalizing state reached rendered with
  | nil =>
      cases (Prod.mk.inj (Except.ok.inj run)).1
      exact ⟨rfl, nofun⟩
  | cons rule rules induction =>
      obtain ⟨piece, middle, first, rest⟩ := Descent.run_bind_eq_ok run
      obtain ⟨pieces, _, later, around⟩ := Descent.run_bind_eq_ok rest
      cases (Prod.mk.inj (Except.ok.inj around)).1
      obtain ⟨same, each⟩ := induction later
      exact ⟨by rw [List.map_cons, same], List.forall_mem_cons.mpr ⟨⟨state, middle, first⟩, each⟩⟩

end
end Rulebook
