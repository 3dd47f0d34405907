import Rulebook.Document.Builder

/-!
# The cursor of a builder

Steps leave the cursor where they found it, and they only depend on the element at the cursor.  So it
is the same to write into an element again and again and to write everything into it at once.
-/

namespace Rulebook
namespace Builder

theorem performAll_append (first second : List Step) (builder : Builder) :
    performAll (first ++ second) builder = performAll second (performAll first builder) := by
  induction first generalizing builder with
  | nil => rfl
  | cons step steps induction => rw [List.cons_append, performAll, induction, performAll]

mutual

/-- A step leaves the cursor where it was. -/
theorem cursor_perform : ∀ (step : Step) (builder : Builder),
    (perform step builder).cursor = builder.cursor
  | .element name body, builder => by
      simp only [perform, leave]
      rw [cursor_performAll body]
      rfl
  | .within id body, builder => by
      simp only [perform, leave]
      rw [cursor_performAll body]
      rfl
  | .setAttribute .., _ => rfl
  | .text _, _ => rfl
  | .cdata _, _ => rfl
  | .reference .., _ => rfl
  | .declare _, _ => rfl

/-- Steps leave the cursor where it was. -/
theorem cursor_performAll : ∀ (steps : List Step) (builder : Builder),
    (performAll steps builder).cursor = builder.cursor
  | [], _ => rfl
  | step :: later, builder => by
      rw [performAll, cursor_performAll later, cursor_perform step]

end

theorem current_performAll (steps : List Step) (builder : Builder) :
    (performAll steps builder).current = builder.current := by
  rw [current, cursor_performAll, current]

/-- The builder with other elements around the one at the cursor. -/
def around (outer : List ElementId) (builder : Builder) : Builder :=
  { builder with cursor := builder.current :: outer }

/-- Coming back from steps in another element, the builder is around the same element as before. -/
theorem leave_around (outer : List ElementId) {entered builder : Builder} {id : ElementId}
    (inside : entered.cursor = id :: builder.cursor) :
    (entered.around (builder.current :: outer)).leave = entered.leave.around outer := by
  simp only [leave, around, current, inside, List.tail_cons]

mutual

/-- A step only depends on the element at the cursor. -/
theorem perform_around (outer : List ElementId) : ∀ (step : Step) (builder : Builder),
    perform step (builder.around outer) = (perform step builder).around outer
  | .element name body, builder => by
      let entered := (builder.append name).2.enter builder.document.size
      have moved : perform (.element name body) (builder.around outer) =
          (performAll body (entered.around (builder.current :: outer))).leave := rfl
      rw [moved, performAll_around]
      exact leave_around outer (cursor_performAll body entered)
  | .within id body, builder => by
      have moved : perform (.within id body) (builder.around outer) =
          (performAll body ((builder.enter id).around (builder.current :: outer))).leave := rfl
      rw [moved, performAll_around]
      exact leave_around outer (cursor_performAll body (builder.enter id))
  | .setAttribute .., _ => rfl
  | .text _, _ => rfl
  | .cdata _, _ => rfl
  | .reference .., _ => rfl
  | .declare _, _ => rfl

/-- Steps only depend on the element at the cursor. -/
theorem performAll_around (outer : List ElementId) : ∀ (steps : List Step) (builder : Builder),
    performAll steps (builder.around outer) = (performAll steps builder).around outer
  | [], _ => rfl
  | step :: later, builder => by
      rw [performAll, perform_around outer step, performAll_around outer later, performAll]

end

/-- To write into the element at the cursor is to write at the cursor. -/
theorem perform_within_current (steps : List Step) (builder : Builder) :
    perform (.within builder.current steps) builder = performAll steps builder := by
  have entered : builder.enter builder.current = builder.around builder.cursor := rfl
  have same := cursor_performAll steps builder
  rw [perform, entered, performAll_around, leave, around, List.tail_cons, ← same]

theorem enter_leave {builder : Builder} {id : ElementId} {outer : List ElementId}
    (inside : builder.cursor = id :: outer) : builder.leave.enter id = builder := by
  obtain ⟨document, cursor, usages⟩ := builder
  subst inside
  rfl

/-- To write into an element twice is to write everything at once. -/
theorem perform_within_append (id : ElementId) (first second : List Step) (builder : Builder) :
    perform (.within id second) (perform (.within id first) builder) =
      perform (.within id (first ++ second)) builder := by
  have back := enter_leave (cursor_performAll first (builder.enter id))
  rw [perform, perform, perform, back, performAll_append]

end Builder
end Rulebook
