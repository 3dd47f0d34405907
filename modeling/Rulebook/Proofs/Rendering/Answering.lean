import Rulebook.Proofs.Rendering.Simulation

/-!
# Tokens with a fixed answer

A renderer that shows a token as the same piece whenever it is asked for it can as well be told the
piece beforehand: what it renders of a rule does not change, so no reference to the token is shown in
another way.
-/

namespace Rulebook

variable {State Piece : Type}

namespace Renderer

/-- The renderer that shows a token as a piece, and everything else as before. -/
def answering (renderer : Renderer State Piece) (token : String) (piece : Piece) :
    Renderer State Piece :=
  { renderer with
    terminal := fun shown =>
      if shown = .token token then return piece else renderer.terminal shown }

/-- Is every reference to a token in a rule shown as a piece?  It is if the rule is rendered to the
same by the renderer that shows the token so. -/
def ShowsAs (renderer : Renderer State Piece) (token : String) (piece : Piece) (rule : Rule) : Prop :=
  ∀ state, ∃ entry reached other, (rule.render renderer).run state = .ok (entry, reached) ∧
    (rule.render (renderer.answering token piece)).run state = .ok (entry, other)

variable {states : State → State → Prop} {allowed : NodeKind → Prop} {renderer : Renderer State Piece}
  {token : String} {piece : Piece}

/-- A renderer that shows a token as a piece from every state keeps in step with the one that is told
the piece. -/
theorem Matches.answering (same : Matches allowed states Eq renderer renderer)
    (shows : StepsMatch states Eq (renderer.terminal (.token token)) (pure piece)) :
    Matches allowed states Eq renderer (renderer.answering token piece) where
  optional := same.optional
  plus := same.plus
  star := same.star
  negation := same.negation
  range := same.range
  block := same.block
  set := same.set
  alternative := same.alternative
  sequence := same.sequence
  terminal shown here := by
    unfold Renderer.answering
    dsimp only
    split
    · rename_i named
      exact named ▸ shows
    · exact same.terminal shown here
  ruleRef := same.ruleRef
  charSet := same.charSet
  placeholder := same.placeholder
  predicate := same.predicate

/-- In a rule whose operators have their operands, every reference to the token is shown as the
piece. -/
theorem Matches.showsAs (same : Matches (fun _ => True) states Eq renderer renderer)
    (refl : ∀ state, states state state)
    (around : ∀ body name line, StepsMatch states Eq (renderer.rule body name line)
      (renderer.rule body name line))
    (shows : StepsMatch states Eq (renderer.terminal (.token token)) (pure piece)) {rule : Rule}
    (complete : rule.body.HasOperands) : renderer.ShowsAs token piece rule := by
  intro state
  have kinds : rule.body.AllKinds fun _ => True := fun _ _ => trivial
  let entered := ((renderer.enter rule).run state).2
  obtain ⟨⟨shown, middle⟩, body⟩ := rule.body.render_succeeds renderer complete Position.body entered
  -- Up to the end of the body the renderers keep in step; what closes the rule depends on no token.
  have outcome := (same.answering shows).render kinds Position.body entered entered (refl entered)
  rw [body] at outcome
  cases answered : (rule.body.render (renderer.answering token piece) Position.body).run entered with
  | error fault =>
      rw [answered] at outcome
      cases outcome
  | ok result =>
      obtain ⟨also, other⟩ := result
      rw [answered] at outcome
      cases outcome with
      | ok value related =>
          subst value
          obtain ⟨entry, -⟩ := around [shown] rule.name rule.line middle other related
          let final := (renderer.rule [shown] rule.name rule.line).run other
          have told : (rule.render (renderer.answering token piece)).run state =
              .ok (final.1, final.2) := Rule.run_render_of_ok answered
          exact ⟨_, _, final.2, Rule.run_render_of_ok body, entry ▸ told⟩

end Renderer
end Rulebook
