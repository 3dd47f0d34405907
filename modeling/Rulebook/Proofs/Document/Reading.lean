import Rulebook.Proofs.Document.Building

/-!
# Documents read as trees

The tree of an element is made of the trees of its contents.  An element that holds some markup is
written as a tree that reads as that markup.
-/

namespace Rulebook

mutual

/-- A tree without the places of its elements. -/
def Tree.markup : Tree → Markup
  | .element _ name attributes children => .element name attributes (Tree.markupAll children)
  | .text value => .text value
  | .cdata value => .cdata value

/-- A row of trees without the places of their elements. -/
def Tree.markupAll : List Tree → List Markup
  | [] => []
  | tree :: later => Tree.markup tree :: Tree.markupAll later

end

namespace Document

/-- Puts the tree of an element behind the trees of all elements made after it. -/
def pushTree (numbered : Element × ElementId) (later : Array Tree) : Array Tree :=
  later.push (numbered.1.tree numbered.2 later)

/-- The trees of elements that are numbered from `start` on, the last made first. -/
def treesFrom (start : ElementId) (elements : List Element) : Array Tree :=
  (elements.zipIdx start).foldr pushTree #[]

theorem treesFrom_cons (start : ElementId) (element : Element) (elements : List Element) :
    treesFrom start (element :: elements) =
      (treesFrom (start + 1) elements).push (element.tree start (treesFrom (start + 1) elements)) := by
  rfl

theorem size_treesFrom (start : ElementId) (elements : List Element) :
    (treesFrom start elements).size = elements.length := by
  induction elements generalizing start with
  | nil => rfl
  | cons element elements induction =>
      rw [treesFrom_cons, Array.size_push, induction, List.length_cons]

/-- The tree of an element only depends on the elements made after it. -/
theorem getElem?_treesFrom (start : Nat) {index : Nat} {elements : List Element} {element : Element}
    (found : elements[index]? = some element) :
    (treesFrom start elements)[elements.length - 1 - index]? =
      some (element.tree (start + index)
        (treesFrom (start + index + 1) (elements.drop (index + 1)))) := by
  induction elements generalizing start index with
  | nil => simp at found
  | cons first elements induction =>
      rw [treesFrom_cons]
      cases index with
      | zero =>
          simp only [List.getElem?_cons_zero, Option.some.injEq] at found
          subst found
          have last : (first :: elements).length - 1 - 0 =
              (treesFrom (start + 1) elements).size := by
            simp [size_treesFrom]
          rw [last, Array.getElem?_push_size]
          rfl
      | succ index =>
          rw [List.getElem?_cons_succ] at found
          obtain ⟨inside, -⟩ := List.getElem?_eq_some_iff.mp found
          have place : (first :: elements).length - 1 - (index + 1) =
              elements.length - 1 - index := by
            simp only [List.length_cons]
            omega
          have before : elements.length - 1 - index < (treesFrom (start + 1) elements).size := by
            rw [size_treesFrom]
            omega
          rw [place, Array.getElem?_push_lt before, ← Array.getElem?_eq_getElem before,
            induction (start + 1) found]
          simp only [List.drop_succ_cons]
          rw [Nat.add_right_comm start 1 index, Nat.add_assoc start index 1]

/-- The tree of a content of the element `parent`. -/
def contentTree? (document : Document) (parent : ElementId) : Content → Option Tree
  | .element id => if parent < id then document.treeAt? id else none
  | .text value => some (.text value)
  | .cdata value => some (.cdata value)

theorem treeAt?_of_get? {document : Document} {id : ElementId} {element : Element}
    (found : document.get? id = some element) :
    document.treeAt? id =
      some (element.tree id (treesFrom (id + 1) (document.elements.toList.drop (id + 1)))) := by
  have inside := lt_of_get?_eq_some found
  have listed : document.elements.toList[id]? = some element := by
    simpa [get?] using found
  have tree := getElem?_treesFrom 0 listed
  rw [Nat.zero_add, Array.length_toList] at tree
  rw [treeAt?, if_pos inside]
  exact tree

theorem tree?_treesFrom (document : Document) (parent : ElementId) (content : Content) :
    content.tree? parent (treesFrom (parent + 1) (document.elements.toList.drop (parent + 1))) =
      document.contentTree? parent content := by
  cases content with
  | text | cdata => rfl
  | element id =>
      have length : (document.elements.toList.drop (parent + 1)).length =
          document.size - (parent + 1) := by
        simp [size]
      rw [Content.tree?, contentTree?, size_treesFrom, length]
      by_cases below : parent < id
      · obtain ⟨gap, rfl⟩ := Nat.exists_eq_add_of_lt below
        rw [if_pos below]
        by_cases inside : parent + gap + 1 < document.size
        · have near : parent + gap + 1 - parent ≤ document.size - (parent + 1) := by
            simp only [size] at inside ⊢
            grind
          have place : document.size - (parent + 1) - (parent + gap + 1 - parent) =
              document.size - (parent + 1) - 1 - gap := by
            simp only [size] at inside ⊢
            grind
          obtain ⟨element, found⟩ := exists_get? inside
          have listed : (document.elements.toList.drop (parent + 1))[gap]? = some element := by
            rw [List.getElem?_drop, Nat.add_right_comm]
            simpa [get?] using found
          have tree := getElem?_treesFrom (parent + 1) listed
          rw [length, List.drop_drop] at tree
          rw [if_pos ⟨below, near⟩, place, tree, treeAt?_of_get? found]
          grind
        · have far : ¬ (parent < parent + gap + 1 ∧
              parent + gap + 1 - parent ≤ document.size - (parent + 1)) := by
            simp only [size] at inside ⊢
            grind
          rw [if_neg far, treeAt?, if_neg inside]
      · rw [if_neg below, if_neg fun both => below both.1]

/-- The tree of an element is made of the trees of its contents. -/
theorem treeAt?_eq {document : Document} {id : ElementId} {element : Element}
    (found : document.get? id = some element) :
    document.treeAt? id = some (.element id element.name element.attributes.toList
      (element.children.toList.filterMap (document.contentTree? id))) := by
  rw [treeAt?_of_get? found, Element.tree,
    funext fun content => tree?_treesFrom document id content]

mutual

/-- What holds some markup is read as that markup. -/
theorem Holds.contentTree? {document : Document} {parent : ElementId} :
    ∀ {content : Content} {markup : Markup}, Holds document (parent + 1) content markup →
      ∃ tree, document.contentTree? parent content = some tree ∧ tree.markup = markup
  | .element id, .element name attributes contents, holds => by
      obtain ⟨below, element, found, rfl, rfl, inner⟩ := holds
      obtain ⟨trees, read, written⟩ := HoldsAll.contentTrees id inner
      refine ⟨_, (if_pos below).trans (treeAt?_eq found), ?_⟩
      rw [Tree.markup, read, written]
  | .text value, .text _, holds => ⟨.text value, rfl, congrArg Markup.text holds⟩
  | .cdata value, .cdata _, holds => ⟨.cdata value, rfl, congrArg Markup.cdata holds⟩

theorem HoldsAll.contentTrees {document : Document} (parent : ElementId) :
    ∀ {contents : List Content} {markups : List Markup},
      HoldsAll document (parent + 1) contents markups →
        ∃ trees, contents.filterMap (document.contentTree? parent) = trees ∧
          Tree.markupAll trees = markups
  | [], [], _ => ⟨[], rfl, rfl⟩
  | content :: contents, markup :: markups, holds => by
      obtain ⟨tree, read, written⟩ := holds.1.contentTree?
      obtain ⟨trees, later, rest⟩ := HoldsAll.contentTrees parent holds.2
      refine ⟨tree :: trees, ?_, ?_⟩
      · rw [List.filterMap_cons_some read, later]
      · rw [Tree.markupAll, written, rest]

end

/-- An element that holds some markup is read as that markup. -/
theorem Holds.treeAt? {document : Document} {low id : ElementId} {markup : Markup}
    (holds : document.Holds low (.element id) markup) :
    ∃ tree, document.treeAt? id = some tree ∧ tree.markup = markup := by
  cases markup with
  | text | cdata => exact holds.elim
  | element name attributes contents =>
      obtain ⟨_, element, found, rfl, rfl, inner⟩ := holds
      obtain ⟨trees, read, written⟩ := inner.contentTrees id
      exact ⟨_, treeAt?_eq found, by rw [Tree.markup, read, written]⟩

end Document

/-- Steps that are done in a new document leave it with the markup that they write. -/
theorem Builder.holds_performAll_new {tag : String} {steps : List Step}
    (placed : ∀ step ∈ steps, step.Placed tag) :
    (Builder.performAll steps (Builder.new tag)).document.Holds Document.root
      (.element Document.root)
      (.element tag (steps.filterMap Step.attribute?) (Step.markupAll steps)) := by
  have start : (Builder.new tag).document.get? Document.root = some { name := tag } := rfl
  obtain ⟨added, grows, holds⟩ := (writes_of_placed placed (Builder.new tag) start rfl).grown
  refine ⟨Nat.le_refl _, _, grows.extended _ start, rfl, by simp [Element.extend], ?_⟩
  simp only [Element.extend, Array.empty_append]
  exact holds

/-- Steps that are done in a new document read as the markup that they write. -/
theorem Builder.exists_tree_of_placed {tag : String} {steps : List Step}
    (placed : ∀ step ∈ steps, step.Placed tag) :
    ∃ tree, (Builder.performAll steps (Builder.new tag)).document.treeAt? Document.root = some tree ∧
      tree.markup = .element tag (steps.filterMap Step.attribute?) (Step.markupAll steps) :=
  (Builder.holds_performAll_new placed).treeAt?

end Rulebook
