import Rulebook.Document.Tree

/-!
# Elements of a growing document

Adding to an element leaves all others as they are.  What stands below an element that is no longer
written to therefore stays the same.
-/

namespace Rulebook

/-- A document as it reads: elements without their places, and text. -/
inductive Markup where
  /-- An element with its attributes and contents. -/
  | element (name : String) (attributes : List (String × String)) (contents : List Markup)
  /-- Text, which is escaped when written. -/
  | text (value : String)
  /-- Text that is written as it is. -/
  | cdata (value : String)

namespace Markup

mutual

/-- Equality of parts of a document is decided element by element. -/
def decideEq : (left right : Markup) → Decidable (left = right)
  | element name attributes contents, element tag others rest =>
      match decEq (name, attributes) (tag, others), decideEqAll contents rest with
      | isTrue heads, isTrue below => isTrue (by rw [(Prod.mk.inj heads).1, (Prod.mk.inj heads).2, below])
      | isFalse differ, _ => isFalse fun same => differ (by rw [(element.inj same).1, (element.inj same).2.1])
      | _, isFalse differ => isFalse fun same => differ (element.inj same).2.2
  | text value, text other => decidable_of_iff (value = other) (by simp)
  | cdata value, cdata other => decidable_of_iff (value = other) (by simp)
  | element .., text _ => isFalse nofun
  | element .., cdata _ => isFalse nofun
  | text _, element .. => isFalse nofun
  | text _, cdata _ => isFalse nofun
  | cdata _, element .. => isFalse nofun
  | cdata _, text _ => isFalse nofun

/-- Equality of rows of parts is decided part by part. -/
def decideEqAll : (left right : List Markup) → Decidable (left = right)
  | [], [] => isTrue rfl
  | [], _ :: _ => isFalse nofun
  | _ :: _, [] => isFalse nofun
  | left :: lefts, right :: rights =>
      match decideEq left right, decideEqAll lefts rights with
      | isTrue heads, isTrue tails => isTrue (by rw [heads, tails])
      | isFalse differ, _ => isFalse fun same => differ (List.cons.inj same).1
      | _, isFalse differ => isFalse fun same => differ (List.cons.inj same).2

end

instance : DecidableEq Markup :=
  decideEq

end Markup

namespace Element

/-- An element with more attributes and contents. -/
def extend (element : Element) (attributes : List (String × String)) (contents : List Content) :
    Element :=
  { element with
    attributes := element.attributes ++ attributes.toArray
    children := element.children ++ contents.toArray }

@[simp]
theorem extend_nil (element : Element) : element.extend [] [] = element := by
  simp [extend]

theorem extend_extend (element : Element) (first second : List (String × String))
    (before after : List Content) :
    (element.extend first before).extend second after =
      element.extend (first ++ second) (before ++ after) := by
  simp [extend]

end Element

namespace Document

theorem lt_of_get?_eq_some {document : Document} {id : ElementId} {element : Element}
    (found : document.get? id = some element) : id < document.size :=
  (Array.getElem?_eq_some_iff.mp found).1

theorem exists_get? {document : Document} {id : ElementId} (inside : id < document.size) :
    ∃ element, document.get? id = some element :=
  ⟨_, Array.getElem?_eq_getElem inside⟩

@[simp]
theorem size_appendContent (document : Document) (parent : ElementId) (content : Content) :
    (document.appendContent parent content).size = document.size := by
  simp [appendContent, size]

@[simp]
theorem size_setAttribute (document : Document) (id : ElementId) (key value : String) :
    (document.setAttribute id key value).size = document.size := by
  simp [setAttribute, size]

@[simp]
theorem size_appendElement (document : Document) (parent : ElementId) (name : String) :
    (document.appendElement parent name).2.size = document.size + 1 := by
  simp [appendElement, size, appendContent]

/-- Two documents of which the second is the first with more attributes and contents in the element
at a place, and more elements. -/
structure Grows (place : ElementId) (before after : Document) (attributes : List (String × String))
    (added : List Content) : Prop where
  /-- No element is lost. -/
  size_le : before.size ≤ after.size
  /-- The other elements are unchanged. -/
  unchanged : ∀ id, id < before.size → id ≠ place → after.get? id = before.get? id
  /-- The element at the place has more. -/
  extended : ∀ element, before.get? place = some element →
    after.get? place = some (element.extend attributes added)

theorem Grows.refl (place : ElementId) (document : Document) : Grows place document document [] [] where
  size_le := Nat.le_refl _
  unchanged _ _ _ := rfl
  extended element found := by simpa using found

theorem Grows.trans {place : ElementId} {before middle after : Document}
    {first second : List (String × String)} {added more : List Content}
    (grows : Grows place before middle first added) (further : Grows place middle after second more) :
    Grows place before after (first ++ second) (added ++ more) where
  size_le := Nat.le_trans grows.size_le further.size_le
  unchanged id inside other := by
    rw [further.unchanged id (Nat.lt_of_lt_of_le inside grows.size_le) other,
      grows.unchanged id inside other]
  extended element found := by
    rw [further.extended _ (grows.extended element found), Element.extend_extend]

/-- Growth inside a new element is growth of the element to which it was added. -/
theorem Grows.inside {place : ElementId} {before middle after : Document}
    {attributes outer : List (String × String)} {added contents : List Content}
    (grows : Grows place before middle outer contents) (below : place < before.size)
    (further : Grows before.size middle after attributes added) :
    Grows place before after outer contents where
  size_le := Nat.le_trans grows.size_le further.size_le
  unchanged id inside other := by
    rw [further.unchanged id (Nat.lt_of_lt_of_le inside grows.size_le) (Nat.ne_of_lt inside),
      grows.unchanged id inside other]
  extended element found := by
    rw [further.unchanged place (Nat.lt_of_lt_of_le below grows.size_le) (Nat.ne_of_lt below),
      grows.extended element found]

/-- Elements made before a growth keep their names. -/
theorem Grows.exists_name {place : ElementId} {before after : Document}
    {attributes : List (String × String)} {added : List Content}
    (grows : Grows place before after attributes added) {id : ElementId} {element : Element}
    (found : before.get? id = some element) :
    ∃ later, after.get? id = some later ∧ later.name = element.name := by
  by_cases here : id = place
  · subst here
    exact ⟨_, grows.extended element found, rfl⟩
  · exact ⟨element, (grows.unchanged id (lt_of_get?_eq_some found) here).trans found, rfl⟩

/-- Elements made before a growth elsewhere are as they were. -/
theorem Grows.get?_eq_of_le {place : ElementId} {before after : Document}
    {attributes : List (String × String)} {added : List Content}
    (grows : Grows place before after attributes added) {id : ElementId} {element : Element}
    (above : place < id) (found : before.get? id = some element) :
    after.get? id = some element :=
  (grows.unchanged id (lt_of_get?_eq_some found) (Nat.ne_of_gt above)).trans found

theorem grows_appendContent (document : Document) (parent : ElementId) (content : Content) :
    Grows parent document (document.appendContent parent content) [] [content] where
  size_le := by simp
  unchanged id _ other := by
    simp only [get?, appendContent, Array.getElem?_modify]
    rw [if_neg (Ne.symm other)]
  extended element found := by
    simp only [get?, appendContent, Array.getElem?_modify] at found ⊢
    simp [found, Element.extend]

theorem grows_setAttribute (document : Document) (id : ElementId) (key value : String) :
    Grows id document (document.setAttribute id key value) [(key, value)] [] where
  size_le := by simp
  unchanged id _ other := by
    simp only [get?, setAttribute, Array.getElem?_modify]
    rw [if_neg (Ne.symm other)]
  extended element found := by
    simp only [get?, setAttribute, Array.getElem?_modify] at found ⊢
    simp [found, Element.extend]

theorem grows_appendElement (document : Document) {parent : ElementId}
    (inside : parent < document.size) (name : String) :
    Grows parent document (document.appendElement parent name).2 []
      [.element document.size] where
  size_le := by simp
  unchanged id below other := by
    simp only [appendElement, appendContent, get?, Array.getElem?_modify]
    rw [if_neg (Ne.symm other), Array.getElem?_push_lt below, Array.getElem?_eq_getElem below]
  extended element found := by
    simp only [appendElement, appendContent, get?, Array.getElem?_modify, if_true] at found ⊢
    rw [Array.getElem?_push_lt inside, ← Array.getElem?_eq_getElem inside, found]
    simp [Element.extend, size]

/-- A new element has a name and nothing else. -/
theorem get?_appendElement (document : Document) {parent : ElementId}
    (inside : parent < document.size) (name : String) :
    (document.appendElement parent name).2.get? document.size = some { name } := by
  simp only [appendElement, appendContent, get?, Array.getElem?_modify]
  rw [if_neg (Nat.ne_of_lt inside), size, Array.getElem?_push_size]

/-! ### What stands below an element -/

mutual

/-- Does a content of an element read as some markup, with elements from `low` on only? -/
def Holds (document : Document) (low : ElementId) : Content → Markup → Prop
  | .element id, .element name attributes contents =>
      low ≤ id ∧ ∃ element, document.get? id = some element ∧ element.name = name ∧
        element.attributes.toList = attributes ∧
          HoldsAll document (id + 1) element.children.toList contents
  | .text value, .text shown => value = shown
  | .cdata value, .cdata shown => value = shown
  | _, _ => False

/-- Do contents of an element read as some markup, with elements from `low` on only? -/
def HoldsAll (document : Document) (low : ElementId) : List Content → List Markup → Prop
  | [], [] => True
  | content :: contents, markup :: later =>
      Holds document low content markup ∧ HoldsAll document low contents later
  | _, _ => False

end

mutual

/-- Markup made of elements from `low` on stays if those elements stay. -/
theorem Holds.frame {before after : Document} {low lower : ElementId} (below : lower ≤ low)
    (same : ∀ id element, low ≤ id → before.get? id = some element → after.get? id = some element) :
    ∀ {content : Content} {markup : Markup}, Holds before low content markup →
      Holds after lower content markup
  | .element id, .element name attributes contents, holds => by
      obtain ⟨fresh, element, found, named, marked, inner⟩ := holds
      refine ⟨Nat.le_trans below fresh, element, same id element fresh found, named, marked, ?_⟩
      exact HoldsAll.frame (Nat.le_refl _) (fun other element above =>
        same other element (Nat.le_trans fresh (Nat.le_of_succ_le above))) inner
  | .text _, .text _, holds => holds
  | .cdata _, .cdata _, holds => holds

theorem HoldsAll.frame {before after : Document} {low lower : ElementId} (below : lower ≤ low)
    (same : ∀ id element, low ≤ id → before.get? id = some element → after.get? id = some element) :
    ∀ {contents : List Content} {markups : List Markup}, HoldsAll before low contents markups →
      HoldsAll after lower contents markups
  | [], [], _ => trivial
  | _ :: _, _ :: _, ⟨head, tail⟩ => ⟨head.frame below same, tail.frame below same⟩

end

theorem HoldsAll.append {document : Document} {low : ElementId} {first second : List Content}
    {before after : List Markup} (holds : HoldsAll document low first before)
    (also : HoldsAll document low second after) :
    HoldsAll document low (first ++ second) (before ++ after) := by
  induction first generalizing before with
  | nil =>
      cases before with
      | nil => exact also
      | cons => exact holds.elim
  | cons content contents induction =>
      cases before with
      | nil => exact holds.elim
      | cons markup later => exact ⟨holds.1, induction holds.2⟩

end Document
end Rulebook
