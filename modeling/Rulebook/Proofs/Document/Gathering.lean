import Rulebook.Proofs.Document.Flush

/-!
# What is gathered from steps

Declarations, names that are shown and users that are noted are gathered step by step, from an element
what the steps inside it give.  So they can be told from the steps that matter alone.
-/

namespace Rulebook

namespace Step

/-- Something that is gathered from steps one by one, where only declarations and identifiers give
more than the steps inside them. -/
structure Gathers {Found : Type} (gather : Step → List Found) : Prop where
  /-- What an element gives. -/
  element : ∀ {name : String} (body : List Step), name ≠ "declaration" → name ≠ "identifier" →
    gather (.element name body) = body.flatMap gather
  /-- An attribute gives nothing. -/
  setAttribute : ∀ key value, gather (.setAttribute key value) = []
  /-- Escaped text gives nothing. -/
  text : ∀ value, gather (.text value) = []
  /-- Text that is written as it is gives nothing. -/
  cdata : ∀ value, gather (.cdata value) = []

/-- The declarations that a step writes. -/
def declarations (step : Step) : List (String × List Markup) :=
  Markup.declarations step.markup

/-- The names that a step shows by identifiers. -/
def identifiers (step : Step) : List (Option String) :=
  Markup.identifiers step.markup

theorem declarations_markupAll (steps : List Step) :
    Markup.declarations (markupAll steps) = steps.flatMap declarations := by
  induction steps with
  | nil => rfl
  | cons step steps induction =>
      rw [markupAll, Markup.declarations_append, induction, List.flatMap_cons, declarations]

theorem identifiers_markupAll (steps : List Step) :
    Markup.identifiers (markupAll steps) = steps.flatMap identifiers := by
  induction steps with
  | nil => rfl
  | cons step steps induction =>
      rw [markupAll, Markup.identifiers_append, induction, List.flatMap_cons, identifiers]

theorem gathers_declarations : Gathers declarations where
  element body other _ := by
    rw [declarations, markup, Markup.declarations_element, Markup.declares?, if_neg other,
      declarations_markupAll]
    rfl
  setAttribute _ _ := rfl
  text _ := rfl
  cdata _ := rfl

theorem gathers_identifiers : Gathers identifiers where
  element body _ other := by
    rw [identifiers, markup, Markup.identifiers_element, if_neg other, identifiers_markupAll]
    rfl
  setAttribute _ _ := rfl
  text _ := rfl
  cdata _ := rfl

theorem gathers_usersOf (name : String) : Gathers (usersOf name) where
  element body _ _ := by rw [usersOf, usersOfAll_eq]
  setAttribute _ _ := rfl
  text _ := rfl
  cdata _ := rfl

end Step

namespace Markup

/-- The declarations of a document are those that its steps write, with the lists of users. -/
theorem declarations_element_withUsers {tag : String} (other : tag ≠ "declaration")
    (attributes : List (String × String)) (usersOf : String → List String) (steps : List Step) :
    declarations [(element tag attributes (Step.markupAll steps)).withUsers usersOf] =
      (steps.flatMap Step.declarations).map fun declared =>
        (declared.1, withUsersAll usersOf declared.2 ++ userList (usersOf declared.1)) := by
  rw [declarations_withUsers, declarations_element, declares?, if_neg other,
    Step.declarations_markupAll]
  rfl

end Markup
end Rulebook
