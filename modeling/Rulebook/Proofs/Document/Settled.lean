import Rulebook.Proofs.Document.Anchors
import Rulebook.Proofs.Document.Numbering

/-!
# Lists of users in the last declarations

A name may be declared more than once, and then its last declaration gets the list of its users.  The
last declaration is told by the place in the document alone, since elements are numbered in the order
in which they are written.
-/

namespace Rulebook

namespace Markup

/-- The names that some contents declare, in the order in which they are written. -/
def names (contents : List Markup) : List String :=
  (declarations contents).map Prod.fst

/-- The users of a name, unless the name is declared again behind. -/
def usersUnless (behind : List String) (usersOf : String → List String) (name : String) :
    List String :=
  if name ∈ behind then [] else usersOf name

mutual

/-- Markup with the list of the users of a name in the last declaration of the name.  The names that are
declared behind the markup get their lists there. -/
def settled (usersOf : String → List String) (behind : List String) : Markup → Markup
  | .element name attributes contents =>
      .element name attributes (settledAll usersOf behind contents ++
        usersIn (usersUnless (names contents ++ behind) usersOf) name attributes)
  | .text value => .text value
  | .cdata value => .cdata value

/-- A row of markup with the list of the users of a name in the last declaration of the name. -/
def settledAll (usersOf : String → List String) (behind : List String) : List Markup → List Markup
  | [] => []
  | markup :: later =>
      settled usersOf (names later ++ behind) markup :: settledAll usersOf behind later

end

variable {usersOf : String → List String} {behind : List String}

@[simp]
theorem names_nil : names [] = [] :=
  rfl

theorem names_append (contents later : List Markup) :
    names (contents ++ later) = names contents ++ names later := by
  rw [names, declarations_append, List.map_append, ← names, ← names]

theorem names_cons (markup : Markup) (later : List Markup) :
    names (markup :: later) = names [markup] ++ names later :=
  names_append [markup] later

theorem names_element (name : String) (attributes : List (String × String))
    (contents : List Markup) :
    names [.element name attributes contents] =
      (declares? name attributes).toList ++ names contents := by
  rw [names, declarations_element, List.map_append, ← names]
  cases declares? name attributes <;> rfl

theorem settledAll_append (contents later : List Markup) :
    settledAll usersOf behind (contents ++ later) =
      settledAll usersOf (names later ++ behind) contents ++ settledAll usersOf behind later := by
  induction contents with
  | nil => rfl
  | cons markup contents induction =>
      rw [List.cons_append, settledAll, settledAll, induction, names_append, List.append_assoc]
      rfl

/-- If each part of a row becomes more parts that declare the same names, the row declares the same
names. -/
theorem names_flatMap {more : Markup → List Markup}
    (same : ∀ markup, names (more markup) = names [markup]) (contents : List Markup) :
    names (contents.flatMap more) = names contents := by
  induction contents with
  | nil => rfl
  | cons markup later induction =>
      rw [List.flatMap_cons, names_append, same, induction, ← names_cons]

/-- If each part of a row becomes more parts that declare the same names, this may be done before or
after the lists of users are put in. -/
theorem settledAll_flatMap {more : Markup → List Markup}
    (same : ∀ markup, names (more markup) = names [markup])
    (each : ∀ markup behind, settledAll usersOf behind (more markup) =
      more (markup.settled usersOf behind)) (contents : List Markup) (behind : List String) :
    settledAll usersOf behind (contents.flatMap more) =
      (settledAll usersOf behind contents).flatMap more := by
  induction contents with
  | nil => rfl
  | cons markup later induction =>
      rw [List.flatMap_cons, settledAll_append, induction, each, names_flatMap same, settledAll,
        List.flatMap_cons]

section

variable {alike : Markup → Markup → Prop} {contents others : List Markup}

/-- Rows declare the same names if they do part by part. -/
theorem names_eq_of_forall₂
    (same : ∀ {markup other}, alike markup other → names [markup] = names [other])
    (all : List.Forall₂ alike contents others) : names contents = names others := by
  induction all with
  | nil => rfl
  | @cons markup other _ _ head _ induction =>
      rw [names_cons, names_cons other, same head, induction]

/-- Rows that are alike part by part are still so with the lists of users. -/
theorem forall₂_settledAll
    (same : ∀ {markup other}, alike markup other → names [markup] = names [other])
    (settled : ∀ {markup other} behind, alike markup other →
      alike (markup.settled usersOf behind) (other.settled usersOf behind))
    (all : List.Forall₂ alike contents others) (behind : List String) :
    List.Forall₂ alike (settledAll usersOf behind contents) (settledAll usersOf behind others) := by
  induction all with
  | nil => exact .nil
  | cons head tail induction =>
      rw [settledAll, settledAll, names_eq_of_forall₂ same tail]
      exact .cons (settled _ head) induction

end

/-- An element that declares nothing itself only hands the lists on to its contents. -/
theorem settled_element {name : String} {attributes : List (String × String)}
    (silent : declares? name attributes = none) (contents : List Markup) :
    settled usersOf behind (.element name attributes contents) =
      .element name attributes (settledAll usersOf behind contents) := by
  rw [settled, usersIn, silent, Option.map_none, Option.getD_none, List.append_nil]

theorem usersIn_congr {first second : String → List String} {tag : String}
    {attributes : List (String × String)}
    (same : ∀ name ∈ declares? tag attributes, first name = second name) :
    usersIn first tag attributes = usersIn second tag attributes := by
  unfold usersIn
  cases declared : declares? tag attributes with
  | none => rfl
  | some name => rw [Option.map_some, Option.map_some, same name declared]

/-- If no name is declared twice, every declaration is the last of its name. -/
theorem settled_eq_withUsers (markup : Markup) (distinct : (names [markup] ++ behind).Nodup) :
    settled usersOf behind markup = withUsers usersOf markup := by
  induction markup generalizing behind with
  | text | cdata => rfl
  | element name attributes contents induction =>
      rw [names_element, List.append_assoc] at distinct
      have inner : settledAll usersOf behind contents = withUsersAll usersOf contents := by
        have below := (List.nodup_append.mp distinct).2.1
        clear distinct
        induction contents with
        | nil => rfl
        | cons first later rest =>
            rw [List.forall_mem_cons] at induction
            rw [names_cons, List.append_assoc] at below
            rw [settledAll, withUsersAll, induction.1 below,
              rest induction.2 (List.nodup_append.mp below).2.1]
      have own : usersIn (usersUnless (names contents ++ behind) usersOf) name attributes =
          usersIn usersOf name attributes := by
        refine usersIn_congr fun declared told => ?_
        rw [Option.mem_def.mp told] at distinct
        exact if_neg (List.nodup_cons.mp distinct).1
      rw [settled, withUsers, inner, own]

/-! ### What lists of users leave as it is -/

/-- The declarations in a list of users declare no name. -/
theorem names_usersIn {tag : String} {attributes : List (String × String)} :
    names (usersIn usersOf tag attributes) = [] := by
  rw [names, declarations_usersIn, List.map_nil]

/-- Lists of users declare nothing. -/
theorem names_settled (markup : Markup) (behind : List String) :
    names [markup.settled usersOf behind] = names [markup] := by
  induction markup generalizing behind with
  | text | cdata => rfl
  | element name attributes contents induction =>
      have inner : names (settledAll usersOf behind contents) = names contents := by
        induction contents with
        | nil => rfl
        | cons first later rest =>
            rw [List.forall_mem_cons] at induction
            rw [settledAll, names_cons, induction.1, rest induction.2, ← names_cons]
      rw [settled, names_element, names_element, names_append, names_usersIn, List.append_nil, inner]

theorem namedAll_userList {tag : String} (other : tag ≠ "usages") (different : tag ≠ "declaration")
    (users : List String) : namedAll tag (userList users) = [] := by
  unfold userList
  split
  · rfl
  · simp [namedAll, named, namedAll_eq, other.symm, different.symm]

/-- Lists of users bring no elements of another tag. -/
theorem map_fst_named_settled {tag : String} (other : tag ≠ "usages")
    (different : tag ≠ "declaration") (markup : Markup) (behind : List String) :
    (named tag (markup.settled usersOf behind)).map Prod.fst = (named tag markup).map Prod.fst := by
  induction markup generalizing behind with
  | text | cdata => rfl
  | element name attributes contents induction =>
      have inner : (namedAll tag (settledAll usersOf behind contents)).map Prod.fst =
          (namedAll tag contents).map Prod.fst := by
        induction contents with
        | nil => rfl
        | cons first later rest =>
            rw [List.forall_mem_cons] at induction
            rw [settledAll, namedAll, List.map_append, induction.1, rest induction.2, namedAll,
              List.map_append]
      have lists : namedAll tag (usersIn (usersUnless (names contents ++ behind) usersOf) name
          attributes) = [] := by
        unfold usersIn
        cases declares? name attributes with
        | none => rfl
        | some declared => exact namedAll_userList other different _
      rw [settled, named, named, namedAll_append, lists, List.append_nil]
      split
      · rw [List.map_cons, List.map_cons, inner]
      · exact inner

theorem identifiers_settled (markup : Markup) (behind : List String) :
    identifiers [markup.settled usersOf behind] = identifiers [markup] := by
  have shown (contents : List Markup) : identifiers contents =
      ((namedAll "identifier" contents).map Prod.fst).map (List.lookup "name") := by
    rw [List.map_map]
    rfl
  have alone (single : Markup) : namedAll "identifier" [single] = named "identifier" single :=
    List.append_nil _
  rw [shown, shown, alone, alone, map_fst_named_settled (by decide) (by decide)]

theorem withoutUsers_settled (markup : Markup) (behind : List String) :
    (markup.settled usersOf behind).withoutUsers = markup.withoutUsers := by
  induction markup generalizing behind with
  | text | cdata => rfl
  | element name attributes contents induction =>
      rw [settled, withoutUsers, withoutUsers]
      split
      · rfl
      · rename_i other
        have inner : withoutUsersAll (settledAll usersOf behind contents) =
            withoutUsersAll contents := by
          induction contents with
          | nil => rfl
          | cons first later rest =>
              rw [List.forall_mem_cons] at induction
              rw [settledAll, withoutUsersAll, induction.1, rest induction.2, withoutUsersAll]
        rw [usersIn, declares?, if_neg other, Option.map_none, Option.getD_none, List.append_nil,
          inner]

theorem itemName?_settled (markup : Markup) (behind : List String) :
    (markup.settled usersOf behind).itemName? = markup.itemName? := by
  rw [← itemName?_withoutUsers, withoutUsers_settled, itemName?_withoutUsers]

end Markup

namespace Document

variable {document : Document}

mutual

/-- The names that some markup declares are those that its elements declare. -/
theorem Spans.mem_names (name : String) :
    ∀ {low : Nat} {content : Content} {markup : Markup}, document.Spans low content markup →
      (name ∈ Markup.names [markup] ↔
        ∃ id : Nat, low ≤ id ∧ id < low + markup.size ∧ document.declaresAt? id = some name)
  | low, .element _, .element tag attributes contents, spans => by
      obtain ⟨rfl, element, found, rfl, rfl, inner⟩ := spans
      have here := declaresAt?_of_get? found
      rw [Markup.names_element, List.mem_append, Option.mem_toList, ← here,
        SpansAll.mem_names name inner, Markup.size]
      constructor
      · rintro (own | ⟨id, above, below, declares⟩)
        · exact ⟨low, by omega, by omega, own⟩
        · exact ⟨id, by omega, by omega, declares⟩
      · rintro ⟨id, above, below, declares⟩
        by_cases first : id = low
        · exact .inl (first ▸ declares)
        · exact .inr ⟨id, by omega, by omega, declares⟩
  | low, .text _, .text _, _ => by
      refine iff_of_false (List.not_mem_nil) ?_
      rintro ⟨id, above, below, -⟩
      exact Nat.not_lt.mpr above below
  | low, .cdata _, .cdata _, _ => by
      refine iff_of_false (List.not_mem_nil) ?_
      rintro ⟨id, above, below, -⟩
      exact Nat.not_lt.mpr above below

theorem SpansAll.mem_names (name : String) :
    ∀ {low : Nat} {contents : List Content} {markups : List Markup},
      document.SpansAll low contents markups →
        (name ∈ Markup.names markups ↔
          ∃ id : Nat, low ≤ id ∧ id < low + Markup.sizeAll markups ∧
            document.declaresAt? id = some name)
  | low, [], [], _ => by
      refine iff_of_false List.not_mem_nil ?_
      rintro ⟨id, above, below, -⟩
      exact Nat.not_lt.mpr above below
  | low, _ :: _, markup :: later, ⟨head, tail⟩ => by
      rw [Markup.names_cons, List.mem_append, head.mem_names name, SpansAll.mem_names name tail,
        Markup.sizeAll]
      constructor
      · rintro (⟨id, above, below, declares⟩ | ⟨id, above, below, declares⟩)
        · exact ⟨id, above, by omega, declares⟩
        · exact ⟨id, by omega, by omega, declares⟩
      · rintro ⟨id, above, below, declares⟩
        by_cases first : id < low + markup.size
        · exact .inl ⟨id, above, first, declares⟩
        · exact .inr ⟨id, by omega, by omega, declares⟩

end

end Document
end Rulebook
