import Mathlib.Data.List.Perm.Basic
import Rulebook.Proofs.Document.Ancestry

/-!
# Documents from top to bottom

What is read of a document that is a tree follows its child elements to the end.  From the root every
element is reached once.
-/

namespace Rulebook

/-! ### The elements of a tree -/

namespace Tree

/-- What the tag of an element shows, and which element it is. -/
structure Head where
  /-- The place of the element in the order of making. -/
  id : ElementId
  /-- The name of the element. -/
  name : String
  /-- Its attributes in order. -/
  attributes : List (String × String)
  deriving DecidableEq

mutual

/-- The elements of a tree, each before those that it contains. -/
def heads : Tree → List Head
  | element id name attributes children => ⟨id, name, attributes⟩ :: headsAll children
  | text _ => []
  | cdata _ => []

/-- The elements in a row of trees. -/
def headsAll : List Tree → List Head
  | [] => []
  | tree :: later => heads tree ++ headsAll later

end

mutual

/-- The elements with a name are found among all elements. -/
theorem named_eq (name : String) : ∀ tree : Tree,
    named name tree = (tree.heads.filter fun head => head.name = name).map Head.id
  | element id tag attributes children => by
      rw [named, heads, namedAll_eq name children, List.filter_cons]
      by_cases same : tag = name
      · simp [same]
      · simp [same]
  | text _ => rfl
  | cdata _ => rfl

theorem namedAll_eq (name : String) : ∀ trees : List Tree,
    namedAll name trees = ((headsAll trees).filter fun head => head.name = name).map Head.id
  | [] => rfl
  | tree :: later => by
      rw [namedAll, headsAll, named_eq name tree, namedAll_eq name later, List.filter_append,
        List.map_append]

end

/-- The elements with a name below the top are found among all elements but the first. -/
theorem descendantsNamed_eq (name : String) (tree : Tree) :
    descendantsNamed name tree =
      (tree.heads.tail.filter fun head => head.name = name).map Head.id := by
  cases tree with
  | element id tag attributes children => exact namedAll_eq name children
  | text | cdata => rfl

end Tree

/-! ### What a document is read as -/

namespace Document

/-- The tree of a content of some element. -/
def shownTree? (document : Document) : Content → Option Tree
  | .element id => document.treeAt? id
  | .text value => some (.text value)
  | .cdata value => some (.cdata value)

/-- The text of a content of some element. -/
def shownText (document : Document) : Content → String
  | .element id => document.textContent id
  | .text value => value
  | .cdata value => value

/-- The elements from an element downwards, each before those that it contains. -/
def headsFrom (document : Document) (id : ElementId) : List Tree.Head :=
  ((document.treeAt? id).map Tree.heads).getD []

/-- The places of the elements from an element downwards. -/
def preorder (document : Document) (id : ElementId) : List ElementId :=
  (document.headsFrom id).map Tree.Head.id

/-- The name of an element. -/
def nameOf? (document : Document) (id : ElementId) : Option String :=
  (document.get? id).map Element.name

variable {document : Document} {id : ElementId} {element : Element}

theorem descendantsNamed_eq_filter (document : Document) (id : ElementId) (name : String) :
    document.descendantsNamed id name =
      ((document.headsFrom id).tail.filter fun head => head.name = name).map Tree.Head.id := by
  rw [descendantsNamed, headsFrom]
  cases document.treeAt? id with
  | none => rfl
  | some tree => exact tree.descendantsNamed_eq name

theorem headsAll_filterMap (contents : List Content) :
    Tree.headsAll (contents.filterMap document.shownTree?) =
      (contents.filterMap Content.child?).flatMap document.headsFrom := by
  induction contents with
  | nil => rfl
  | cons content contents induction =>
      cases content with
      | text | cdata => exact induction
      | element child =>
          have shown : Content.child? (.element child) = some child := rfl
          rw [List.filterMap_cons, List.filterMap_cons_some shown, List.flatMap_cons, ← induction,
            headsFrom, shownTree?]
          cases document.treeAt? child <;> rfl

theorem textContentAll_filterMap (contents : List Content) :
    Tree.textContentAll (contents.filterMap document.shownTree?) =
      String.join (contents.map document.shownText) := by
  induction contents with
  | nil => rfl
  | cons content contents induction =>
      rw [List.map_cons, String.join_cons, ← induction, List.filterMap_cons]
      cases content with
      | text | cdata => rfl
      | element child =>
          rw [shownTree?, shownText, textContent]
          cases document.treeAt? child with
          | none => exact (String.empty_append ..).symm
          | some tree => rfl

/-- Places among which every one before a place stands once are there those of a range. -/
theorem filter_lt_perm_range {places : List ElementId} {size : Nat} (inside : id < size)
    (once : ∀ place, place < id → places.count place = 1) :
    (places.filter (· < id)).Perm ((List.range size).filter (· < id)) := by
  refine List.perm_iff_count.mpr fun place => ?_
  by_cases earlier : place < id
  · have kept (places : List ElementId) :
        (places.filter (· < id)).count place = places.count place :=
      List.count_filter (decide_eq_true earlier)
    rw [kept, kept, once place earlier]
    have present := List.mem_range.mpr (Nat.lt_trans earlier inside)
    exact (List.count_eq_one_of_mem List.nodup_range present).symm
  · have absent (places : List ElementId) : place ∉ places.filter (· < id) :=
      fun member => earlier (of_decide_eq_true (List.mem_filter.mp member).2)
    rw [List.count_eq_zero_of_not_mem (absent _), List.count_eq_zero_of_not_mem (absent _)]

namespace IsTree

variable (tree : document.IsTree)
include tree

theorem root_lt : root < document.size := tree.size_pos

/-- The tree of an element is made of the trees of all its contents. -/
theorem treeAt?_eq (found : document.get? id = some element) :
    document.treeAt? id = some (.element id element.name element.attributes.toList
      (element.children.toList.filterMap document.shownTree?)) := by
  rw [Document.treeAt?_eq found]
  congr 2
  refine List.filterMap_congr fun content member => ?_
  cases content with
  | text | cdata => rfl
  | element child =>
      exact if_pos (tree.parent_lt id child ((mem_childElements_iff found).mpr member))

theorem headsFrom_eq (found : document.get? id = some element) :
    document.headsFrom id = ⟨id, element.name, element.attributes.toList⟩ ::
      (document.childElements id).flatMap document.headsFrom := by
  rw [headsFrom, tree.treeAt?_eq found, Option.map_some, Option.getD_some, Tree.heads,
    headsAll_filterMap, childElements_of_get? found]
  rfl

theorem preorder_eq (inside : id < document.size) :
    document.preorder id = id :: (document.childElements id).flatMap document.preorder := by
  obtain ⟨element, found⟩ := exists_get? inside
  rw [preorder, tree.headsFrom_eq found, List.map_cons, List.map_flatMap]
  rfl

/-- The text of an element is that of its contents in order. -/
theorem textContent_eq (found : document.get? id = some element) :
    document.textContent id = String.join (element.children.toList.map document.shownText) := by
  rw [textContent, tree.treeAt?_eq found, Option.map_some, Option.getD_some, Tree.textContent,
    textContentAll_filterMap]

/-- The elements with a name below an element are those children that have it, each before the
elements with the name below it. -/
theorem descendantsNamed_eq (inside : id < document.size) (name : String) :
    document.descendantsNamed id name = (document.childElements id).flatMap fun child =>
      (if document.nameOf? child = some name then [child] else []) ++
        document.descendantsNamed child name := by
  obtain ⟨element, found⟩ := exists_get? inside
  rw [descendantsNamed_eq_filter, tree.headsFrom_eq found, List.tail_cons, List.filter_flatMap,
    List.map_flatMap]
  refine List.flatMap_congr fun child member => ?_
  obtain ⟨below, present⟩ := exists_get? (tree.child_lt member)
  rw [descendantsNamed_eq_filter, tree.headsFrom_eq present, List.tail_cons, nameOf?, present,
    Option.map_some, List.filter_cons]
  by_cases same : below.name = name
  · rw [if_pos (decide_eq_true same), if_pos (congrArg some same)]
    rfl
  · rw [if_neg (by simpa using same), if_neg (by simpa using same)]
    rfl

/-- What happens with an element once it has happened with its child elements happens with all
elements. -/
theorem childInduction {motive : ElementId → Prop}
    (step : ∀ id, id < document.size →
      (∀ child ∈ document.childElements id, motive child) → motive id)
    (inside : id < document.size) : motive id := by
  induction rank : document.size - id using Nat.strongRecOn generalizing id with
  | ind _ induction =>
      subst rank
      refine step id inside fun child member => ?_
      have above := tree.parent_lt id child member
      exact induction _ (Nat.sub_lt_sub_left inside above) (tree.child_lt member) rfl

/-- A walk down the child elements of a document comes to an end. -/
theorem wellFounded_child :
    WellFounded fun child parent => child ∈ document.childElements parent := by
  refine Subrelation.wf (fun {child parent} member => ?_) (measure fun id => document.size - id).wf
  have above := tree.parent_lt parent child member
  exact Nat.sub_lt_sub_left (Nat.lt_trans above (tree.child_lt member)) above

/-- Every element shows its own name and attributes. -/
theorem get?_of_mem_headsFrom (inside : id < document.size) {head : Tree.Head}
    (member : head ∈ document.headsFrom id) :
    ∃ element, document.get? head.id = some element ∧ head.name = element.name ∧
      head.attributes = element.attributes.toList := by
  revert member
  refine tree.childInduction (motive := fun id => head ∈ document.headsFrom id → _) ?_ inside
  intro id inside induction member
  obtain ⟨element, found⟩ := exists_get? inside
  rw [tree.headsFrom_eq found] at member
  rcases List.mem_cons.mp member with rfl | below
  · exact ⟨element, found, rfl, rfl⟩
  · obtain ⟨child, present, deeper⟩ := List.mem_flatMap.mp below
    exact induction child present deeper

/-! ### Every element is reached once -/

/-- The elements from an element downwards are the element and the children of them all. -/
theorem preorder_perm (inside : id < document.size) :
    (document.preorder id).Perm
      (id :: (document.preorder id).flatMap document.childElements) := by
  refine tree.childInduction (motive := fun id => (document.preorder id).Perm
    (id :: (document.preorder id).flatMap document.childElements)) ?_ inside
  intro id inside induction
  have below : ((document.childElements id).flatMap document.preorder).Perm
      (document.childElements id ++
        ((document.childElements id).flatMap document.preorder).flatMap document.childElements) := by
    have regrouped := List.map_append_flatMap_perm (document.childElements id) (fun child => child)
      fun child => (document.preorder child).flatMap document.childElements
    rw [List.map_id', ← List.flatMap_assoc] at regrouped
    exact (List.Perm.flatMap_left _ induction).trans regrouped.symm
  rw [tree.preorder_eq inside, List.flatMap_cons]
  exact below.cons id

/-- Only elements made before an element can have it as a child. -/
theorem count_flatMap_childElements (child : ElementId) (places : List ElementId) :
    (places.flatMap document.childElements).count child =
      ((places.filter (· < child)).flatMap document.childElements).count child := by
  induction places with
  | nil => rfl
  | cons place places induction =>
      rw [List.flatMap_cons, List.count_append, induction, List.filter_cons]
      by_cases before : place < child
      · rw [if_pos (decide_eq_true before), List.flatMap_cons, List.count_append]
      · have absent : child ∉ document.childElements place :=
          fun member => before (tree.parent_lt place child member)
        rw [if_neg (by simpa using before), List.count_eq_zero_of_not_mem absent, Nat.zero_add]

/-- From the root every element is reached once. -/
theorem count_preorder_root (inside : id < document.size) :
    (document.preorder root).count id = 1 := by
  induction id using Nat.strongRecOn with
  | ind id induction =>
      have before := filter_lt_perm_range inside fun place earlier =>
        induction place earlier (Nat.lt_trans earlier inside)
      -- An element is reached from its parent, and its parent is reached once.
      rw [(tree.preorder_perm tree.root_lt).count_eq, List.count_cons,
        tree.count_flatMap_childElements, (before.flatMap_right document.childElements).count_eq,
        ← tree.count_flatMap_childElements, ← allChildren_eq]
      by_cases first : id = root
      · subst first
        have orphan : root ∉ document.allChildren := fun member =>
          absurd (List.mem_range'_1.mp (tree.children_perm.mem_iff.mp member)).1 (by decide)
        rw [List.count_eq_zero_of_not_mem orphan]
        rfl
      · rw [tree.count_allChildren (Nat.pos_of_ne_zero first) inside, if_neg]
        simpa using Ne.symm first

/-- The elements from the root downwards are all elements. -/
theorem preorder_root_perm : (document.preorder root).Perm (List.range document.size) := by
  refine List.perm_iff_count.mpr fun id => ?_
  by_cases inside : id < document.size
  · rw [tree.count_preorder_root inside]
    exact (List.count_eq_one_of_mem List.nodup_range (List.mem_range.mpr inside)).symm
  · have unreached : id ∉ document.preorder root := by
      intro member
      obtain ⟨head, reached, rfl⟩ := List.mem_map.mp member
      obtain ⟨element, found, -⟩ := tree.get?_of_mem_headsFrom tree.root_lt reached
      exact inside (lt_of_get?_eq_some found)
    have beyond : id ∉ List.range document.size := fun member => inside (List.mem_range.mp member)
    rw [List.count_eq_zero_of_not_mem unreached, List.count_eq_zero_of_not_mem beyond]

/-- Below the root every element is reached once, and the root is not. -/
theorem preorder_root_tail_perm :
    (document.preorder root).tail.Perm (List.range' 1 (document.size - 1)) := by
  have reached := tree.preorder_root_perm
  have first : List.range document.size = root :: List.range' 1 (document.size - 1) := by
    rw [List.range_eq_range', ← Nat.sub_add_cancel tree.size_pos, List.range'_succ]
    rfl
  rw [tree.preorder_eq tree.root_lt] at reached ⊢
  exact (first ▸ reached).cons_inv

/-- Below the root every element with a name is found once. -/
theorem descendantsNamed_root_perm (name : String) :
    (document.descendantsNamed root name).Perm
      ((List.range' 1 (document.size - 1)).filter fun id => document.nameOf? id = some name) := by
  have shown : ((document.headsFrom root).tail.filter fun head => head.name = name) =
      (document.headsFrom root).tail.filter fun head => document.nameOf? head.id = some name := by
    refine List.filter_congr fun head member => ?_
    obtain ⟨element, found, same, -⟩ :=
      tree.get?_of_mem_headsFrom tree.root_lt (List.mem_of_mem_tail member)
    rw [nameOf?, found, Option.map_some, same]
    simp
  have mapped := (tree.preorder_root_tail_perm).filter fun id => document.nameOf? id = some name
  rw [preorder, ← List.map_tail, List.filter_map] at mapped
  rw [descendantsNamed_eq_filter, shown]
  exact mapped

end IsTree
end Document
end Rulebook
