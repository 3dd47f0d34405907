import Rulebook.Proofs.Document.Settled

/-!
# Documents without some of their parts

Two documents that differ in some of their parts only are equal once these parts are deleted.  Parts
that declare nothing can be deleted before or after the lists of users are put in.
-/

namespace Rulebook
namespace Markup

mutual

/-- Markup without the parts below its top that a test picks out. -/
def pruned (gone : Markup → Bool) : Markup → Markup
  | .element name attributes contents => .element name attributes (prunedAll gone contents)
  | .text value => .text value
  | .cdata value => .cdata value

/-- A row of markup without the parts that a test picks out. -/
def prunedAll (gone : Markup → Bool) : List Markup → List Markup
  | [] => []
  | markup :: later =>
      if gone markup then prunedAll gone later else pruned gone markup :: prunedAll gone later

end

/-- Is it an element with a tag? -/
def hasTag (tag : String) : Markup → Bool
  | .element name _ _ => name == tag
  | _ => false

section

variable {gone : Markup → Bool}

@[simp]
theorem prunedAll_nil : prunedAll gone [] = [] := by
  rw [prunedAll]

theorem prunedAll_append (contents later : List Markup) :
    prunedAll gone (contents ++ later) = prunedAll gone contents ++ prunedAll gone later := by
  induction contents with
  | nil => rw [prunedAll, List.nil_append, List.nil_append]
  | cons markup contents induction =>
      rw [List.cons_append, prunedAll, prunedAll, induction]
      split <;> rfl

/-- Elements that differ in deleted parts only are equal once these parts are deleted. -/
theorem prunedAll_element_congr {name : String} {attributes : List (String × String)}
    {contents others : List Markup} (same : prunedAll gone contents = prunedAll gone others)
    (alike : gone (.element name attributes contents) = gone (.element name attributes others)) :
    prunedAll gone [.element name attributes contents] =
      prunedAll gone [.element name attributes others] := by
  simp only [prunedAll, pruned, alike, same]

/-- What is deleted again may be added to every part of a row. -/
theorem prunedAll_flatMap {more : Markup → List Markup} {contents : List Markup}
    (each : ∀ markup ∈ contents, prunedAll gone (more markup) = prunedAll gone [markup]) :
    prunedAll gone (contents.flatMap more) = prunedAll gone contents := by
  induction contents with
  | nil => rfl
  | cons markup contents induction =>
      rw [List.forall_mem_cons] at each
      rw [List.flatMap_cons, prunedAll_append, each.1, induction each.2, ← prunedAll_append]
      rfl

end

/-! ### Documents without a tag -/

section

variable {tag : String}

/-- Without elements of a tag there is nothing to delete. -/
theorem pruned_eq_self (markup : Markup) (without : named tag markup = []) :
    pruned (hasTag tag) markup = markup := by
  induction markup with
  | text | cdata => rw [pruned]
  | element name attributes contents induction =>
      rw [named] at without
      split at without
      · exact absurd without (List.cons_ne_nil _ _)
      · rw [namedAll_eq, List.flatMap_eq_nil_iff] at without
        rw [pruned]
        congr 1
        induction contents with
        | nil => exact prunedAll_nil
        | cons first later rest =>
            rw [List.forall_mem_cons] at induction without
            have stays : hasTag tag first = false := by
              cases first with
              | text | cdata => rfl
              | element inner _ _ =>
                  refine beq_false_of_ne fun same => ?_
                  have absent := without.1
                  rw [named, if_pos same] at absent
                  exact List.cons_ne_nil _ _ absent
            rw [prunedAll, if_neg (by rw [stays]; exact Bool.false_ne_true),
              induction.1 without.1, rest induction.2 without.2]

end

/-! ### Parts without declarations -/

/-- Does a test pick out parts that declare nothing, whatever lists of users there are? -/
structure Inert (gone : Markup → Bool) : Prop where
  /-- What is picked out declares nothing. -/
  silent : ∀ markup, gone markup = true → names [markup] = []
  /-- The same is picked out when lists of users have been put in. -/
  stable : ∀ markup usersOf behind, gone (markup.settled usersOf behind) = gone markup
  /-- Lists of users stay as they are. -/
  lists : ∀ users, prunedAll gone (userList users) = userList users

namespace Inert

variable {gone : Markup → Bool} {usersOf : String → List String}

theorem names_prunedAll_of (inert : Inert gone) {contents : List Markup}
    (each : ∀ markup ∈ contents, names [pruned gone markup] = names [markup]) :
    names (prunedAll gone contents) = names contents := by
  induction contents with
  | nil => rw [prunedAll_nil]
  | cons markup contents induction =>
      rw [List.forall_mem_cons] at each
      rw [prunedAll, names_cons markup]
      split
      · rename_i deleted
        rw [inert.silent markup deleted, List.nil_append, induction each.2]
      · rw [names_cons, each.1, induction each.2]

/-- To delete parts that declare nothing keeps the names that are declared. -/
theorem names_pruned (inert : Inert gone) (markup : Markup) :
    names [pruned gone markup] = names [markup] := by
  induction markup with
  | text | cdata => rfl
  | element name attributes contents induction =>
      rw [pruned, names_element, names_element, inert.names_prunedAll_of induction]

theorem names_prunedAll (inert : Inert gone) (contents : List Markup) :
    names (prunedAll gone contents) = names contents :=
  inert.names_prunedAll_of fun markup _ => inert.names_pruned markup

theorem prunedAll_usersIn (inert : Inert gone) (name : String) (attributes : List (String × String)) :
    prunedAll gone (usersIn usersOf name attributes) = usersIn usersOf name attributes := by
  unfold usersIn
  cases declares? name attributes with
  | none => exact prunedAll_nil
  | some declared => exact inert.lists (usersOf declared)

/-- Parts that declare nothing can be deleted before the lists of users are put in. -/
theorem pruned_settled (inert : Inert gone) (markup : Markup) (behind : List String) :
    pruned gone (markup.settled usersOf behind) = (pruned gone markup).settled usersOf behind := by
  induction markup generalizing behind with
  | text | cdata => rfl
  | element name attributes contents induction =>
      have inner : prunedAll gone (settledAll usersOf behind contents) =
          settledAll usersOf behind (prunedAll gone contents) := by
        induction contents with
        | nil => rfl
        | cons first later rest =>
            rw [List.forall_mem_cons] at induction
            rw [settledAll, prunedAll, inert.stable, rest induction.2, prunedAll]
            split
            · rfl
            · rw [settledAll, induction.1, inert.names_prunedAll]
      rw [settled, pruned, prunedAll_append, inner, inert.prunedAll_usersIn, pruned, settled,
        inert.names_prunedAll]

end Inert
end Markup
end Rulebook
