import Rulebook.Proofs.Document.Placement

/-!
# Elements by their tag

The elements with a tag are listed in the order in which they are written.  Lists of users that are
added to declarations change neither the identifiers of a document nor its items, and the contents
of its declarations by the lists only.
-/

namespace Rulebook
namespace Markup

/-- What passes from the contents of an element to the element holds of all markup. -/
@[elab_as_elim, induction_eliminator]
theorem induct {motive : Markup → Prop}
    (element : ∀ name attributes contents, (∀ content ∈ contents, motive content) →
      motive (.element name attributes contents))
    (text : ∀ value, motive (.text value)) (cdata : ∀ value, motive (.cdata value)) :
    ∀ markup, motive markup
  | .element name attributes contents =>
      element name attributes contents fun content _ => induct element text cdata content
  | .text value => text value
  | .cdata value => cdata value
  termination_by markup => sizeOf markup
  decreasing_by
    have smaller : sizeOf content < sizeOf contents := List.sizeOf_lt_of_mem (by assumption)
    simp only [Markup.element.sizeOf_spec]
    omega

mutual

/-- The attributes and the contents of the elements with a tag, each before those that it contains. -/
def named (tag : String) : Markup → List (List (String × String) × List Markup)
  | .element name attributes contents =>
      if name = tag then (attributes, contents) :: namedAll tag contents else namedAll tag contents
  | .text _ => []
  | .cdata _ => []

/-- The attributes and the contents of the elements with a tag in a row of markup. -/
def namedAll (tag : String) : List Markup → List (List (String × String) × List Markup)
  | [] => []
  | markup :: later => named tag markup ++ namedAll tag later

end

theorem namedAll_eq (tag : String) (contents : List Markup) :
    namedAll tag contents = contents.flatMap (named tag) := by
  induction contents with
  | nil => rfl
  | cons markup contents induction => rw [namedAll, induction, List.flatMap_cons]

/-- The names that identifiers show, in the order in which they are written. -/
def identifiers (contents : List Markup) : List (Option String) :=
  (namedAll "identifier" contents).map fun found => found.1.lookup "name"

/-- The names that are declared with the contents of their declarations, in the order in which they
are written. -/
def declarations (contents : List Markup) : List (String × List Markup) :=
  (namedAll "declaration" contents).filterMap fun found =>
    (found.1.lookup "name").map fun name => (name, found.2)

/-! ### Lists of users -/

/-- The list of some users, if there are any. -/
def userList (users : List String) : List Markup :=
  if users.isEmpty then []
  else [.element "usages" [] (users.map fun user => .element "declaration" [] [.text user])]

/-- The name that an element declares, if it declares one. -/
def declares? (tag : String) (attributes : List (String × String)) : Option String :=
  if tag = "declaration" then attributes.lookup "name" else none

/-- The list of the users of the name that an element declares. -/
def usersIn (usersOf : String → List String) (tag : String) (attributes : List (String × String)) :
    List Markup :=
  ((declares? tag attributes).map fun name => userList (usersOf name)).getD []

mutual

/-- Markup with the lists of users in its declarations. -/
def withUsers (usersOf : String → List String) : Markup → Markup
  | .element name attributes contents =>
      .element name attributes (withUsersAll usersOf contents ++ usersIn usersOf name attributes)
  | .text value => .text value
  | .cdata value => .cdata value

/-- A row of markup with the lists of users in its declarations. -/
def withUsersAll (usersOf : String → List String) : List Markup → List Markup
  | [] => []
  | markup :: later => withUsers usersOf markup :: withUsersAll usersOf later

end

theorem withUsersAll_eq (usersOf : String → List String) (contents : List Markup) :
    withUsersAll usersOf contents = contents.map (withUsers usersOf) := by
  induction contents with
  | nil => rfl
  | cons markup contents induction => rw [withUsersAll, induction, List.map_cons]

variable {usersOf : String → List String} {tag : String} {attributes : List (String × String)}

theorem namedAll_append (tag : String) (contents later : List Markup) :
    namedAll tag (contents ++ later) = namedAll tag contents ++ namedAll tag later := by
  simp only [namedAll_eq, List.flatMap_append]

theorem identifiers_append (contents later : List Markup) :
    identifiers (contents ++ later) = identifiers contents ++ identifiers later := by
  rw [identifiers, namedAll_append, List.map_append, ← identifiers, ← identifiers]

theorem declarations_append (contents later : List Markup) :
    declarations (contents ++ later) = declarations contents ++ declarations later := by
  rw [declarations, namedAll_append, List.filterMap_append, ← declarations, ← declarations]

/-- The declarations in a list of users declare no name. -/
theorem declarations_userList (users : List String) : declarations (userList users) = [] := by
  unfold userList
  split
  · rfl
  · simp [declarations, namedAll, named, namedAll_eq, List.filterMap_flatMap]

theorem declarations_usersIn : declarations (usersIn usersOf tag attributes) = [] := by
  unfold usersIn
  cases declares? tag attributes with
  | none => rfl
  | some name => exact declarations_userList (usersOf name)

/-- An element with the contents of an identifier shows its name first. -/
theorem identifiers_element (contents : List Markup) :
    identifiers [.element tag attributes contents] =
      (if tag = "identifier" then [attributes.lookup "name"] else []) ++ identifiers contents := by
  simp only [identifiers, namedAll, named, List.append_nil]
  split <;> rfl

/-- An element that declares a name comes before the declarations that it contains. -/
theorem declarations_element (contents : List Markup) :
    declarations [.element tag attributes contents] =
      ((declares? tag attributes).map fun name => (name, contents)).toList ++
        declarations contents := by
  simp only [declarations, namedAll, named, List.append_nil, declares?]
  split
  · rw [List.filterMap_cons]
    cases attributes.lookup "name" <;> rfl
  · rfl

theorem declarations_cons (markup : Markup) (later : List Markup) :
    declarations (markup :: later) = declarations [markup] ++ declarations later :=
  declarations_append [markup] later

/-- The contents of every declaration with the list of the users of its name. -/
theorem declarations_withUsers (usersOf : String → List String) (markup : Markup) :
    declarations [markup.withUsers usersOf] = (declarations [markup]).map fun declared =>
      (declared.1, withUsersAll usersOf declared.2 ++ userList (usersOf declared.1)) := by
  induction markup with
  | text | cdata => rfl
  | element name attributes contents induction =>
      have inner : declarations (withUsersAll usersOf contents) =
          (declarations contents).map fun declared =>
            (declared.1, withUsersAll usersOf declared.2 ++ userList (usersOf declared.1)) := by
        rw [withUsersAll_eq]
        induction contents with
        | nil => rfl
        | cons markup later rest =>
            rw [List.forall_mem_cons] at induction
            rw [List.map_cons, declarations_cons, declarations_cons markup, induction.1,
              rest induction.2, List.map_append]
      rw [withUsers, declarations_element, declarations_element, declarations_append, inner,
        declarations_usersIn, List.append_nil, List.map_append, usersIn]
      cases declares? name attributes <;> rfl

end Markup
end Rulebook
