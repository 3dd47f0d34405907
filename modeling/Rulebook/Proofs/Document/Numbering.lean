import Rulebook.Proofs.Document.Building
import Rulebook.Proofs.Document.Cursor

/-!
# The order in which elements are made

Steps that stay at the cursor make their elements in the order in which the elements are written: an
element directly before its contents, and all of them before whatever follows the element.
-/

namespace Rulebook

namespace Markup

mutual

/-- The number of elements in some markup. -/
def size : Markup → Nat
  | .element _ _ contents => sizeAll contents + 1
  | .text _ => 0
  | .cdata _ => 0

/-- The number of elements in a row of markup. -/
def sizeAll : List Markup → Nat
  | [] => 0
  | markup :: later => size markup + sizeAll later

end

theorem sizeAll_append (contents later : List Markup) :
    sizeAll (contents ++ later) = sizeAll contents + sizeAll later := by
  induction contents with
  | nil => simp [sizeAll]
  | cons markup contents induction =>
      rw [List.cons_append, sizeAll, sizeAll, induction, Nat.add_assoc]

end Markup

namespace Document

mutual

/-- Does a content of an element read as some markup whose elements are numbered from `low` on in the
order in which they are written? -/
def Spans (document : Document) (low : Nat) : Content → Markup → Prop
  | .element id, .element name attributes contents =>
      low = id ∧ ∃ element, document.get? id = some element ∧ element.name = name ∧
        element.attributes.toList = attributes ∧
          SpansAll document (low + 1) element.children.toList contents
  | .text value, .text shown => value = shown
  | .cdata value, .cdata shown => value = shown
  | _, _ => False

/-- Do contents of an element read as some markup whose elements are numbered from `low` on in the
order in which they are written? -/
def SpansAll (document : Document) (low : Nat) : List Content → List Markup → Prop
  | [], [] => True
  | content :: contents, markup :: later =>
      Spans document low content markup ∧ SpansAll document (low + markup.size) contents later
  | _, _ => False

end

mutual

/-- Markup made of elements from `low` on stays where it is if those elements stay. -/
theorem Spans.frame {before after : Document} {low : Nat}
    (same : ∀ (id : Nat) element, low ≤ id → before.get? id = some element → after.get? id = some element) :
    ∀ {content : Content} {markup : Markup}, Spans before low content markup →
      Spans after low content markup
  | .element id, .element name attributes contents, spans => by
      obtain ⟨here, element, found, named, marked, inner⟩ := spans
      refine ⟨here, element, same id element (Nat.le_of_eq here) found, named, marked, ?_⟩
      exact SpansAll.frame (fun other element above =>
        same other element (Nat.le_of_succ_le above)) inner
  | .text _, .text _, spans => spans
  | .cdata _, .cdata _, spans => spans

theorem SpansAll.frame {before after : Document} {low : Nat}
    (same : ∀ (id : Nat) element, low ≤ id → before.get? id = some element → after.get? id = some element) :
    ∀ {contents : List Content} {markups : List Markup}, SpansAll before low contents markups →
      SpansAll after low contents markups
  | [], [], _ => trivial
  | _ :: _, _ :: _, ⟨head, tail⟩ =>
      ⟨head.frame same, tail.frame fun other element above =>
        same other element (Nat.le_of_add_right_le above)⟩

end

theorem SpansAll.append {document : Document} {low : Nat} {first second : List Content}
    {before after : List Markup} (spans : SpansAll document low first before)
    (also : SpansAll document (low + Markup.sizeAll before) second after) :
    SpansAll document low (first ++ second) (before ++ after) := by
  induction first generalizing low before with
  | nil =>
      cases before with
      | nil => exact also
      | cons => exact spans.elim
  | cons content contents induction =>
      cases before with
      | nil => exact spans.elim
      | cons markup later =>
          rw [Markup.sizeAll, ← Nat.add_assoc] at also
          exact ⟨spans.1, induction spans.2 also⟩

/-- Two documents of which the second is the first with more attributes and contents in the element at
a place.  The contents are made of new elements, numbered in the order in which they are written. -/
structure Numbers (place : ElementId) (before after : Document) (attributes : List (String × String))
    (contents : List Markup) : Prop where
  /-- There are no other new elements. -/
  size_eq : after.size = before.size + Markup.sizeAll contents
  /-- The element at the place has more contents. -/
  grown : ∃ added, before.Grows place after attributes added ∧
    after.SpansAll before.size added contents

theorem Numbers.refl (place : ElementId) (document : Document) :
    Numbers place document document [] [] where
  size_eq := rfl
  grown := ⟨[], .refl place document, trivial⟩

theorem Numbers.trans {place : ElementId} {before middle after : Document}
    {first second : List (String × String)} {contents later : List Markup}
    (numbers : Numbers place before middle first contents) (inside : place < before.size)
    (further : Numbers place middle after second later) :
    Numbers place before after (first ++ second) (contents ++ later) where
  size_eq := by rw [further.size_eq, numbers.size_eq, Markup.sizeAll_append, Nat.add_assoc]
  grown := by
    obtain ⟨added, grows, spans⟩ := numbers.grown
    obtain ⟨more, grows_more, spans_more⟩ := further.grown
    refine ⟨added ++ more, grows.trans grows_more, ?_⟩
    rw [numbers.size_eq] at spans_more
    refine (spans.frame fun id element fresh found => ?_).append spans_more
    exact grows_more.get?_eq_of_le (Nat.lt_of_lt_of_le inside fresh) found

theorem Numbers.of_grows {place : ElementId} {before after : Document}
    {attributes : List (String × String)} {added : List Content} {contents : List Markup}
    (grows : before.Grows place after attributes added) (same : after.size = before.size)
    (plain : Markup.sizeAll contents = 0) (spans : after.SpansAll before.size added contents) :
    Numbers place before after attributes contents :=
  ⟨by rw [same, plain, Nat.add_zero], added, grows, spans⟩

end Document

namespace Builder

/-- Does a step make its elements in the order in which they are written? -/
def StepNumbers (step : Step) : Prop :=
  ∀ builder : Builder, builder.current < builder.document.size →
    builder.document.Numbers builder.current (perform step builder).document step.attribute?.toList
      step.markup

theorem numbers_performAll {steps : List Step} (each : ∀ step ∈ steps, StepNumbers step)
    (builder : Builder) (inside : builder.current < builder.document.size) :
    builder.document.Numbers builder.current (performAll steps builder).document
      (steps.filterMap Step.attribute?) (Step.markupAll steps) := by
  induction steps generalizing builder with
  | nil => exact .refl _ _
  | cons step steps induction =>
      rw [List.forall_mem_cons] at each
      have first := each.1 builder inside
      have cursor := current_eq_of_cursor_eq (cursor_perform step builder)
      have grown : builder.current < (perform step builder).document.size := by
        rw [first.size_eq]
        exact Nat.lt_add_right _ inside
      have rest := induction each.2 (perform step builder) (cursor ▸ grown)
      rw [cursor] at rest
      rw [Step.filterMap_attribute?_cons]
      exact first.trans inside rest

/-- The new element comes first, and what the steps inside it make follows. -/
theorem stepNumbers_element {name : String} {body : List Step}
    (each : ∀ step ∈ body, StepNumbers step) : StepNumbers (.element name body) := by
  intro builder inside
  let place := builder.current
  let entered := (builder.append name).2.enter builder.document.size
  have size : entered.document.size = builder.document.size + 1 :=
    Document.size_appendElement builder.document place name
  have grows : builder.document.Grows place entered.document [] [.element builder.document.size] :=
    Document.grows_appendElement builder.document inside name
  have fresh : entered.document.get? entered.current = some { name } :=
    Document.get?_appendElement builder.document inside name
  have numbers := numbers_performAll each entered (Document.lt_of_get?_eq_some fresh)
  obtain ⟨added, grows_inside, spans⟩ := numbers.grown
  refine ⟨?_, ⟨_, grows.inside inside grows_inside, ⟨?_, trivial⟩⟩⟩
  · refine numbers.size_eq.trans ?_
    rw [size, Step.markup, Markup.sizeAll, Markup.sizeAll, Markup.size]
    omega
  · refine ⟨rfl, _, grows_inside.extended _ fresh, rfl, by simp [Element.extend], ?_⟩
    simp only [Element.extend, Array.empty_append]
    rw [size] at spans
    exact spans

theorem stepNumbers_of_placed {tag : String} {step : Step} (placed : step.Placed tag) :
    StepNumbers step := by
  induction placed with
  | element _ induction => exact stepNumbers_element induction
  | setAttribute tag key value =>
      intro builder _
      have grows := Document.grows_setAttribute builder.document builder.current key value
      exact .of_grows grows (Document.size_setAttribute _ _ key value) rfl trivial
  | text tag value =>
      intro builder _
      have grows := Document.grows_appendContent builder.document builder.current (.text value)
      exact .of_grows grows (Document.size_appendContent _ _ _) rfl ⟨rfl, trivial⟩
  | cdata tag value =>
      intro builder _
      have grows := Document.grows_appendContent builder.document builder.current (.cdata value)
      exact .of_grows grows (Document.size_appendContent _ _ _) rfl ⟨rfl, trivial⟩
  | reference | declare => exact fun builder _ => .refl _ _

/-- Steps that are done in a new document make its elements in the order in which they are written. -/
theorem spans_performAll_new {tag : String} {steps : List Step}
    (placed : ∀ step ∈ steps, step.Placed tag) :
    (performAll steps (Builder.new tag)).document.Spans Document.root (.element Document.root)
        (.element tag (steps.filterMap Step.attribute?) (Step.markupAll steps)) ∧
      (performAll steps (Builder.new tag)).document.size = Markup.sizeAll (Step.markupAll steps) + 1 := by
  have start : (Builder.new tag).document.get? Document.root = some { name := tag } := rfl
  have numbers := numbers_performAll (fun step member => stepNumbers_of_placed (placed step member))
    (Builder.new tag) (Document.lt_of_get?_eq_some start)
  obtain ⟨added, grows, spans⟩ := numbers.grown
  refine ⟨⟨rfl, _, grows.extended _ start, rfl, by simp [Element.extend], ?_⟩, ?_⟩
  · simp only [Element.extend, Array.empty_append]
    exact spans
  · rw [numbers.size_eq, Nat.add_comm]
    rfl

end Builder
end Rulebook
