import Rulebook.Proofs.Document.Users

/-!
# Items and their sets

The items of a document stand at its top or in sets.  Where they stand does not depend on the lists of
users.
-/

namespace Rulebook
namespace Markup

/-- The name that the first declaration among some contents declares. -/
def declaredName? : List Markup → Option String
  | [] => none
  | .element name attributes _ :: later =>
      if name = "declaration" then attributes.lookup "name" else declaredName? later
  | _ :: later => declaredName? later

/-- The name that an item declares, if the content is an item. -/
def itemName? : Markup → Option (Option String)
  | .element name _ contents => if name = "item" then some (declaredName? contents) else none
  | _ => none

/-- The items at the top or in a set, each with the key of its set and the name that it declares. -/
def placed : Markup → List (Option String × Option String)
  | .element name attributes contents =>
      if name = "item" then [(none, declaredName? contents)]
      else if name = "set" then
        (contents.filterMap itemName?).map fun item => (attributes.lookup "file-name", item)
      else []
  | _ => []

/-- The items of a document, each with the key of its set and the name that it declares. -/
def placements : Markup → List (Option String × Option String)
  | .element _ _ contents => contents.flatMap placed
  | _ => []

theorem declaredName?_withoutUsersAll (contents : List Markup) :
    declaredName? (withoutUsersAll contents) = declaredName? contents := by
  induction contents with
  | nil => rfl
  | cons markup later induction =>
      cases markup with
      | text | cdata => exact induction
      | element name attributes inner =>
          rw [withoutUsersAll, withoutUsers, declaredName?, induction, declaredName?]

theorem itemName?_withoutUsers (markup : Markup) :
    markup.withoutUsers.itemName? = markup.itemName? := by
  cases markup with
  | text | cdata => rfl
  | element name attributes contents =>
      rw [withoutUsers, itemName?, itemName?]
      by_cases item : name = "item"
      · simp [item, declaredName?_withoutUsersAll]
      · rw [if_neg item, if_neg item]

theorem placed_withoutUsers (markup : Markup) : markup.withoutUsers.placed = markup.placed := by
  cases markup with
  | text | cdata => rfl
  | element name attributes contents =>
      rw [withoutUsers, placed, placed]
      by_cases item : name = "item"
      · simp [item, declaredName?_withoutUsersAll]
      · rw [if_neg item, if_neg item]
        by_cases set : name = "set"
        · have same : (withoutUsersAll contents).filterMap itemName? = contents.filterMap itemName? := by
            rw [withoutUsersAll_eq, List.filterMap_map]
            exact congrFun (congrArg List.filterMap (funext itemName?_withoutUsers)) contents
          simp [set, same]
        · rw [if_neg set, if_neg set]

/-- The items of a document stand where they stand without the lists of users. -/
theorem placements_eq_of_withoutUsers_eq {markup : Markup} {name : String}
    {attributes : List (String × String)} {contents : List Markup} (other : name ≠ "declaration")
    (same : markup.withoutUsers = (element name attributes contents).withoutUsers) :
    markup.placements = contents.flatMap placed := by
  cases markup with
  | text | cdata => simp [withoutUsers] at same
  | element also _ inner =>
      simp only [withoutUsers, Markup.element.injEq] at same
      obtain ⟨rfl, -, alike⟩ := same
      rw [if_neg other, if_neg other, withoutUsersAll_eq, withoutUsersAll_eq] at alike
      have placed_alike := congrArg (List.flatMap placed) alike
      simpa [placements, List.flatMap_map, placed_withoutUsers] using placed_alike

end Markup
end Rulebook
