import Rulebook.Proofs.Document.Cursor
import Rulebook.Proofs.Document.Reading

/-!
# Documents that have been built

A document is built from its root by adding elements, attributes and text to elements that are there.
The child elements of an element were then all made after it.  Steps that stay at the cursor, and the
lists of users at the end, only ever address elements that are there.
-/

namespace Rulebook

namespace Document

/-- Has the document been built from its root, by changes to elements that are there? -/
inductive Built : Document → Prop where
  /-- The root alone. -/
  | new (name : String) : Built (Document.new name)
  /-- One more element. -/
  | appendElement {document : Document} {parent : ElementId} (built : Built document)
      (inside : parent < document.size) (name : String) :
      Built (document.appendElement parent name).2
  /-- One more attribute. -/
  | setAttribute {document : Document} {id : ElementId} (built : Built document)
      (inside : id < document.size) (key value : String) :
      Built (document.setAttribute id key value)
  /-- More text. -/
  | appendText {document : Document} {parent : ElementId} (built : Built document)
      (inside : parent < document.size) (value : String) :
      Built (document.appendText parent value)
  /-- More text that is written as it is. -/
  | appendCData {document : Document} {parent : ElementId} (built : Built document)
      (inside : parent < document.size) (value : String) :
      Built (document.appendCData parent value)

/-- Was every child element made after the element in which it stands? -/
def IsOrdered (document : Document) : Prop :=
  ∀ id element, document.get? id = some element →
    ∀ child, .element child ∈ element.children → id < child ∧ child < document.size

theorem isOrdered_new (name : String) : IsOrdered (Document.new name) := by
  intro id element found child member
  obtain ⟨inside, rfl⟩ := Array.getElem?_eq_some_iff.mp found
  have first : id = 0 := Nat.lt_one_iff.mp inside
  subst first
  simp [Document.new] at member

/-- What grows stays ordered if what is added to the element at the place was made after it, and new
elements have no child elements. -/
theorem IsOrdered.grows {place : ElementId} {before after : Document}
    {attributes : List (String × String)} {added : List Content} (ordered : before.IsOrdered)
    (grows : before.Grows place after attributes added)
    (later : ∀ child, .element child ∈ added → place < child ∧ child < after.size)
    (fresh : ∀ id element, before.size ≤ id → after.get? id = some element →
      element.children = #[]) :
    after.IsOrdered := by
  intro id element found child member
  rcases Nat.lt_or_ge id before.size with inside | new
  · obtain ⟨original, was⟩ := exists_get? inside
    by_cases here : id = place
    · subst here
      cases Option.some.inj (found.symm.trans (grows.extended original was))
      simp only [Element.extend, Array.mem_append, List.mem_toArray] at member
      rcases member with old | new
      · obtain ⟨above, below⟩ := ordered id original was child old
        exact ⟨above, Nat.lt_of_lt_of_le below grows.size_le⟩
      · exact later child new
    · cases Option.some.inj (found.symm.trans ((grows.unchanged id inside here).trans was))
      obtain ⟨above, below⟩ := ordered id element was child member
      exact ⟨above, Nat.lt_of_lt_of_le below grows.size_le⟩
  · simp [fresh id element new found] at member

/-- What only gains attributes and text stays ordered. -/
theorem IsOrdered.grows_of_size_eq {place : ElementId} {before after : Document}
    {attributes : List (String × String)} {added : List Content} (ordered : before.IsOrdered)
    (grows : before.Grows place after attributes added) (same : after.size = before.size)
    (texts : ∀ child, .element child ∉ added) : after.IsOrdered := by
  refine ordered.grows grows (fun child member => absurd member (texts child)) ?_
  intro id element new found
  have inside := lt_of_get?_eq_some found
  rw [same] at inside
  exact absurd new (Nat.not_le.mpr inside)

/-- In a document that has been built every child element was made after its parent. -/
theorem Built.isOrdered {document : Document} (built : document.Built) : document.IsOrdered := by
  induction built with
  | new name => exact isOrdered_new name
  | @appendElement document parent _ inside name ordered =>
      refine ordered.grows (grows_appendElement document inside name) ?_ ?_
      · intro child member
        cases List.mem_singleton.mp member
        exact ⟨inside, by simp⟩
      · intro id element new found
        have last : id < document.size + 1 := by
          simpa using lt_of_get?_eq_some found
        have same : id = document.size := by omega
        subst same
        cases Option.some.inj (found.symm.trans (get?_appendElement document inside name))
        rfl
  | @setAttribute document id _ _ key value ordered =>
      exact ordered.grows_of_size_eq (grows_setAttribute document id key value) (by simp) (by simp)
  | @appendText document parent _ _ value ordered =>
      exact ordered.grows_of_size_eq (grows_appendContent document parent (.text value))
        (by simp [Document.appendText]) (by simp)
  | @appendCData document parent _ _ value ordered =>
      exact ordered.grows_of_size_eq (grows_appendContent document parent (.cdata value))
        (by simp [Document.appendCData]) (by simp)

theorem Built.size_pos {document : Document} (built : document.Built) : 0 < document.size := by
  induction built with
  | new => exact Nat.zero_lt_one
  | appendElement => simp
  | setAttribute _ _ _ _ positive => simpa using positive
  | appendText _ _ _ positive => simpa [Document.appendText] using positive
  | appendCData _ _ _ positive => simpa [Document.appendCData] using positive

/-- A new element is there. -/
theorem fst_appendElement_lt (document : Document) (parent : ElementId) (name : String) :
    (document.appendElement parent name).1 < (document.appendElement parent name).2.size := by
  rw [size_appendElement]
  exact Nat.lt_succ_self _

/-- A document that has been built, of no fewer elements than another. -/
structure IsBuiltOn (before after : Document) : Prop where
  /-- It has been built. -/
  built : after.Built
  /-- No element is lost. -/
  size_le : before.size ≤ after.size

theorem IsBuiltOn.refl {document : Document} (built : document.Built) :
    document.IsBuiltOn document :=
  ⟨built, Nat.le_refl _⟩

theorem IsBuiltOn.trans {before middle after : Document} (first : before.IsBuiltOn middle)
    (second : middle.IsBuiltOn after) : before.IsBuiltOn after :=
  ⟨second.built, Nat.le_trans first.size_le second.size_le⟩

theorem Built.isBuiltOn_appendElement {document : Document} (built : document.Built)
    {parent : ElementId} (inside : parent < document.size) (name : String) :
    document.IsBuiltOn (document.appendElement parent name).2 :=
  ⟨built.appendElement inside name, by simp⟩

theorem Built.isBuiltOn_appendText {document : Document} (built : document.Built)
    {parent : ElementId} (inside : parent < document.size) (value : String) :
    document.IsBuiltOn (document.appendText parent value) :=
  ⟨built.appendText inside value, by simp [Document.appendText]⟩

end Document

/-! ### Steps -/

namespace Builder

/-- Does a step only address elements that are there? -/
def StepBuilds (step : Step) : Prop :=
  ∀ builder : Builder, builder.document.Built → builder.current < builder.document.size →
    builder.document.IsBuiltOn (perform step builder).document

theorem isBuiltOn_performAll {steps : List Step} (each : ∀ step ∈ steps, StepBuilds step)
    {builder : Builder} (built : builder.document.Built)
    (inside : builder.current < builder.document.size) :
    builder.document.IsBuiltOn (performAll steps builder).document := by
  induction steps generalizing builder with
  | nil => exact .refl built
  | cons step steps induction =>
      rw [List.forall_mem_cons] at each
      have first := each.1 builder built inside
      have cursor := current_eq_of_cursor_eq (cursor_perform step builder)
      refine first.trans (induction each.2 first.built ?_)
      exact cursor ▸ Nat.lt_of_lt_of_le inside first.size_le

/-- Steps that stay at the cursor only address elements that are there. -/
theorem stepBuilds_of_placed {tag : String} {step : Step} (placed : step.Placed tag) :
    StepBuilds step := by
  induction placed with
  | @element _ name body _ induction =>
      intro builder built inside
      have appended := built.isBuiltOn_appendElement inside name
      let entered : Builder := (builder.append name).2.enter builder.document.size
      have entered_built : entered.document.Built := appended.built
      refine appended.trans (isBuiltOn_performAll induction entered_built ?_)
      exact Nat.lt_of_lt_of_eq (Nat.lt_succ_self _)
        (Document.size_appendElement builder.document builder.current name).symm
  | setAttribute _ key value =>
      exact fun builder built inside =>
        ⟨built.setAttribute inside key value, Nat.le_of_eq (Document.size_setAttribute ..).symm⟩
  | text _ value => exact fun builder built inside => built.isBuiltOn_appendText inside value
  | cdata _ value =>
      exact fun builder built inside =>
        ⟨built.appendCData inside value, Nat.le_of_eq (Document.size_appendContent ..).symm⟩
  | reference | declare => exact fun builder built _ => .refl built

end Builder

/-! ### Lists of users -/

namespace UsageIndex

theorem isBuiltOn_appendUser {document : Document} (built : document.Built) {usages : ElementId}
    (inside : usages < document.size) (user : String) :
    document.IsBuiltOn (appendUser usages document user) := by
  have declared := built.isBuiltOn_appendElement inside "declaration"
  exact declared.trans (declared.built.isBuiltOn_appendText
    (Document.fst_appendElement_lt document usages "declaration") user)

theorem isBuiltOn_foldl_appendUser {document : Document} (built : document.Built)
    {usages : ElementId} (inside : usages < document.size) (users : List String) :
    document.IsBuiltOn (users.foldl (appendUser usages) document) := by
  induction users generalizing document with
  | nil => exact .refl built
  | cons user users induction =>
      have first := isBuiltOn_appendUser built inside user
      exact first.trans (induction first.built (Nat.lt_of_lt_of_le inside first.size_le))

/-- The list of users of a name goes to an element that is there. -/
theorem isBuiltOn_flushRecord {document : Document} (built : document.Built) {usage : UsageRecord}
    (inside : ∀ anchor ∈ usage.anchor?, anchor < document.size) :
    document.IsBuiltOn (flushRecord document usage) := by
  unfold flushRecord
  split
  · exact .refl built
  · rename_i anchor declared
    split
    · exact .refl built
    · have listed := built.isBuiltOn_appendElement (inside anchor declared) "usages"
      exact listed.trans (isBuiltOn_foldl_appendUser listed.built
        (Document.fst_appendElement_lt document anchor "usages") _)

theorem built_foldl_flushRecord {entries : List (String × UsageRecord)} {document : Document}
    (built : document.Built)
    (inside : ∀ entry ∈ entries, ∀ anchor ∈ entry.2.anchor?, anchor < document.size) :
    (entries.foldl (fun document entry => flushRecord document entry.2) document).Built := by
  induction entries generalizing document with
  | nil => exact built
  | cons entry entries induction =>
      rw [List.forall_mem_cons] at inside
      have first := isBuiltOn_flushRecord built inside.1
      exact induction first.built fun other member anchor declared =>
        Nat.lt_of_lt_of_le (inside.2 other member anchor declared) first.size_le

end UsageIndex

/-- A document that is finished after steps at its root has been built. -/
theorem Builder.built_finish {tag : String} {steps : List Step}
    (placed : ∀ step ∈ steps, step.Placed tag) :
    (performAll steps (Builder.new tag)).finish.Built := by
  have start : (Builder.new tag).document.get? Document.root = some { name := tag } := rfl
  have anchored := (writes_of_placed placed (Builder.new tag) start rfl).anchored nofun
  have start_built : (Builder.new tag).document.Built := .new tag
  have built := (isBuiltOn_performAll (fun step member => stepBuilds_of_placed (placed step member))
    start_built Nat.zero_lt_one).built
  refine UsageIndex.built_foldl_flushRecord built fun entry member anchor declared => ?_
  obtain ⟨_, found, -⟩ := anchored entry member anchor declared
  exact Document.lt_of_get?_eq_some found

end Rulebook
