import Rulebook.Document.Builder
import Rulebook.Proofs.Document.Arena

/-!
# What steps write

Steps that stay at the cursor add their markup to the element there and change no other.  If names
are declared in declarations only, every anchor of the index is a declaration.
-/

namespace Rulebook

namespace Step

/-- The attribute that a step adds, if it adds one. -/
def attribute? : Step → Option (String × String)
  | setAttribute key value => some (key, value)
  | _ => none

mutual

/-- The contents that a step adds. -/
def markup : Step → List Markup
  | element name body => [.element name (body.filterMap attribute?) (markupAll body)]
  | text value => [.text value]
  | cdata value => [.cdata value]
  | _ => []

/-- The contents that steps add in order. -/
def markupAll : List Step → List Markup
  | [] => []
  | step :: later => markup step ++ markupAll later

end

theorem markupAll_eq (steps : List Step) : markupAll steps = steps.flatMap markup := by
  induction steps with
  | nil => rfl
  | cons step steps induction => rw [markupAll, induction, List.flatMap_cons]

theorem markupAll_append (steps later : List Step) :
    markupAll (steps ++ later) = markupAll steps ++ markupAll later := by
  simp only [markupAll_eq, List.flatMap_append]

theorem filterMap_attribute?_cons (step : Step) (steps : List Step) :
    (step :: steps).filterMap attribute? = step.attribute?.toList ++ steps.filterMap attribute? := by
  rw [List.filterMap_cons]
  cases step.attribute? <;> rfl

/-- A step that stays at the cursor, in an element of a name, and declares only in declarations. -/
inductive Placed : String → Step → Prop where
  /-- A new element with steps inside it. -/
  | element {tag name : String} {body : List Step} (each : ∀ step ∈ body, Placed name step) :
      Placed tag (.element name body)
  /-- An attribute. -/
  | setAttribute (tag key value : String) : Placed tag (.setAttribute key value)
  /-- Escaped text. -/
  | text (tag value : String) : Placed tag (.text value)
  /-- Text that is written as it is. -/
  | cdata (tag value : String) : Placed tag (.cdata value)
  /-- A reference. -/
  | reference (tag target user : String) : Placed tag (.reference target user)
  /-- A declaration. -/
  | declare (name : String) : Placed "declaration" (.declare name)

end Step

namespace UsageIndex

/-- Is every place of declaration a declaration of the document? -/
def Anchored (index : UsageIndex) (document : Document) : Prop :=
  ∀ entry ∈ index.entries, ∀ anchor ∈ entry.2.anchor?,
    ∃ element, document.get? anchor = some element ∧ element.name = "declaration"

theorem Anchored.grows {index : UsageIndex} {place : ElementId} {before after : Document}
    {attributes : List (String × String)} {added : List Content}
    (anchored : index.Anchored before) (grows : before.Grows place after attributes added) :
    index.Anchored after := by
  intro entry member anchor declared
  obtain ⟨element, found, named⟩ := anchored entry member anchor declared
  obtain ⟨later, still, same⟩ := grows.exists_name found
  exact ⟨later, still, same.trans named⟩

/-- A changed index has the anchors that it had, and those of the changed record. -/
theorem anchored_update {index : UsageIndex} {document : Document} {name : String}
    {change : UsageRecord → UsageRecord} (anchored : index.Anchored document)
    (changed : ∀ usage, ∀ anchor ∈ (change usage).anchor?, anchor ∈ usage.anchor? ∨
      ∃ element, document.get? anchor = some element ∧ element.name = "declaration") :
    (index.update name change).Anchored document := by
  obtain ⟨entries⟩ := index
  simp only [update, Anchored] at anchored ⊢
  induction entries with
  | nil =>
      simp only [updateEntries, List.forall_mem_singleton]
      intro anchor declared
      rcases changed {} anchor declared with old | new
      · simp at old
      · exact new
  | cons entry entries induction =>
      rw [List.forall_mem_cons] at anchored
      rw [updateEntries]
      split
      · refine List.forall_mem_cons.mpr ⟨fun anchor declared => ?_, anchored.2⟩
        rcases changed _ anchor declared with old | new
        · exact anchored.1 anchor old
        · exact new
      · exact List.forall_mem_cons.mpr ⟨anchored.1, induction anchored.2⟩

end UsageIndex

namespace Builder

/-- Two builders of which the second has written attributes and contents at a place, and is back at
the cursor. -/
structure Writes (place : ElementId) (before after : Builder) (attributes : List (String × String))
    (contents : List Markup) : Prop where
  /-- The cursor is where it was. -/
  cursor_eq : after.cursor = before.cursor
  /-- The element at the place has more contents, made of new elements. -/
  grown : ∃ added, before.document.Grows place after.document attributes added ∧
    after.document.HoldsAll before.document.size added contents
  /-- The anchors are still declarations. -/
  anchored : before.usages.Anchored before.document → after.usages.Anchored after.document

theorem Writes.refl (place : ElementId) (builder : Builder) : Writes place builder builder [] [] where
  cursor_eq := rfl
  grown := ⟨[], .refl place _, trivial⟩
  anchored := id

theorem Writes.trans {place : ElementId} {before middle after : Builder}
    {first second : List (String × String)} {contents later : List Markup}
    (writes : Writes place before middle first contents)
    (inside : place < before.document.size) (further : Writes place middle after second later) :
    Writes place before after (first ++ second) (contents ++ later) where
  cursor_eq := further.cursor_eq.trans writes.cursor_eq
  grown := by
    obtain ⟨added, grows, holds⟩ := writes.grown
    obtain ⟨more, grows_more, holds_more⟩ := further.grown
    refine ⟨added ++ more, grows.trans grows_more, ?_⟩
    refine (holds.frame (Nat.le_refl _) fun id element fresh found => ?_).append
      (holds_more.frame grows.size_le fun _ _ _ found => found)
    exact grows_more.get?_eq_of_le (Nat.lt_of_lt_of_le inside fresh) found
  anchored := further.anchored ∘ writes.anchored

theorem Writes.size_le {place : ElementId} {before after : Builder}
    {attributes : List (String × String)} {contents : List Markup}
    (writes : Writes place before after attributes contents) :
    before.document.size ≤ after.document.size := by
  obtain ⟨_, grows, _⟩ := writes.grown
  exact grows.size_le

theorem Writes.exists_name {place : ElementId} {before after : Builder}
    {attributes : List (String × String)} {contents : List Markup}
    (writes : Writes place before after attributes contents) {id : ElementId} {element : Element}
    (found : before.document.get? id = some element) :
    ∃ later, after.document.get? id = some later ∧ later.name = element.name := by
  obtain ⟨_, grows, _⟩ := writes.grown
  exact grows.exists_name found

theorem current_eq_of_cursor_eq {before after : Builder} (same : after.cursor = before.cursor) :
    after.current = before.current := by
  rw [current, current, same]

/-- Does a step write its markup wherever an element of a name is at the cursor? -/
def StepWrites (tag : String) (step : Step) : Prop :=
  ∀ (builder : Builder) (element : Element),
    builder.document.get? builder.current = some element → element.name = tag →
      Writes builder.current builder (perform step builder) step.attribute?.toList step.markup

/-- Steps that write their markup one by one write it in order. -/
theorem writes_performAll {tag : String} {steps : List Step}
    (each : ∀ step ∈ steps, StepWrites tag step) (builder : Builder) {element : Element}
    (found : builder.document.get? builder.current = some element) (named : element.name = tag) :
    Writes builder.current builder (performAll steps builder) (steps.filterMap Step.attribute?)
      (Step.markupAll steps) := by
  induction steps generalizing builder element with
  | nil => exact .refl _ _
  | cons step steps induction =>
      rw [List.forall_mem_cons] at each
      have first := each.1 builder element found named
      obtain ⟨later, still, same⟩ := first.exists_name found
      have cursor := current_eq_of_cursor_eq first.cursor_eq
      have rest := induction each.2 (perform step builder) (cursor.symm ▸ still)
        (same.trans named)
      rw [cursor] at rest
      rw [Step.filterMap_attribute?_cons]
      exact first.trans (Document.lt_of_get?_eq_some found) rest

theorem stepWrites_element {tag name : String} {body : List Step}
    (each : ∀ step ∈ body, StepWrites name step) : StepWrites tag (.element name body) := by
  intro builder element found named
  have inside := Document.lt_of_get?_eq_some found
  let place := builder.current
  let entered := (builder.append name).2.enter builder.document.size
  have grows : builder.document.Grows place entered.document [] [.element builder.document.size] :=
    Document.grows_appendElement builder.document inside name
  have fresh : entered.document.get? entered.current = some { name } :=
    Document.get?_appendElement builder.document inside name
  have writes := writes_performAll each entered fresh rfl
  obtain ⟨added, grows_inside, holds⟩ := writes.grown
  have whole := grows.inside inside grows_inside
  have written := grows_inside.extended _ fresh
  refine ⟨?_, ⟨_, whole, ⟨?_, trivial⟩⟩, fun anchored => ?_⟩
  · have cursor := writes.cursor_eq
    simp only [perform, leave, entered, enter, append, edit] at cursor ⊢
    rw [cursor]
    rfl
  · refine ⟨Nat.le_refl _, _, written, rfl, by simp [Element.extend], ?_⟩
    simp only [Element.extend, Array.empty_append]
    refine holds.frame ?_ fun _ _ _ found => found
    exact Nat.le_of_eq (Document.size_appendElement builder.document place name).symm
  · exact writes.anchored (anchored.grows grows)

theorem stepWrites_of_placed {tag : String} {step : Step} (placed : step.Placed tag) :
    StepWrites tag step := by
  induction placed with
  | element each induction => exact stepWrites_element induction
  | setAttribute tag key value =>
      intro builder element found named
      have grows := Document.grows_setAttribute builder.document builder.current key value
      exact ⟨rfl, ⟨[], grows, trivial⟩, fun anchored => anchored.grows grows⟩
  | text tag value =>
      intro builder element found named
      have grows := Document.grows_appendContent builder.document builder.current (.text value)
      exact ⟨rfl, ⟨_, grows, rfl, trivial⟩, fun anchored => anchored.grows grows⟩
  | cdata tag value =>
      intro builder element found named
      have grows := Document.grows_appendContent builder.document builder.current (.cdata value)
      exact ⟨rfl, ⟨_, grows, rfl, trivial⟩, fun anchored => anchored.grows grows⟩
  | reference tag target user =>
      intro builder element found named
      refine ⟨rfl, ⟨[], .refl _ _, trivial⟩, fun anchored => ?_⟩
      refine UsageIndex.anchored_update anchored fun usage anchor declared => .inl ?_
      unfold UsageRecord.addUser at declared
      split at declared <;> exact declared
  | declare name =>
      intro builder element found named
      refine ⟨rfl, ⟨[], .refl _ _, trivial⟩, fun anchored => ?_⟩
      refine UsageIndex.anchored_update anchored fun usage anchor declared => .inr ?_
      rw [UsageRecord.setAnchor, Option.mem_some_iff] at declared
      exact ⟨element, declared ▸ found, named⟩

/-- Steps that are placed in the element at the cursor write their markup there. -/
theorem writes_of_placed {tag : String} {steps : List Step}
    (placed : ∀ step ∈ steps, step.Placed tag) (builder : Builder) {element : Element}
    (found : builder.document.get? builder.current = some element) (named : element.name = tag) :
    Writes builder.current builder (performAll steps builder) (steps.filterMap Step.attribute?)
      (Step.markupAll steps) :=
  writes_performAll (fun step member => stepWrites_of_placed (placed step member)) builder found named

/-- Steps inside an element that is there already write their markup there. -/
theorem writes_within {tag : String} {steps : List Step}
    (placed : ∀ step ∈ steps, step.Placed tag) (builder : Builder) {id : ElementId}
    {element : Element} (found : builder.document.get? id = some element)
    (named : element.name = tag) :
    Writes id builder (perform (.within id steps) builder) (steps.filterMap Step.attribute?)
      (Step.markupAll steps) := by
  have writes := writes_of_placed placed (builder.enter id) found named
  refine ⟨?_, writes.grown, writes.anchored⟩
  have cursor := writes.cursor_eq
  simp only [perform, leave]
  rw [cursor]
  rfl

end Builder
end Rulebook
