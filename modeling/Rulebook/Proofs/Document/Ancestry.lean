import Mathlib.Data.List.Nodup
import Rulebook.Proofs.Document.Built

/-!
# Documents are trees

In a document that has been built, every element but the root is a child exactly once, of an element
made before it.
-/

namespace Rulebook

/-- The element that a content is, if it is one. -/
def Content.child? : Content → Option ElementId
  | .element id => some id
  | _ => none

theorem Element.childElements_eq (element : Element) :
    element.childElements = element.children.toList.filterMap Content.child? := rfl

namespace Document

/-- The child elements of all elements, those of the first element first. -/
def allChildren (document : Document) : List ElementId :=
  document.elements.toList.flatMap Element.childElements

/-- Is every element but the root a child exactly once, of an element made before it? -/
structure IsTree (document : Document) : Prop where
  /-- The root is there. -/
  size_pos : 0 < document.size
  /-- Each of the other elements is a child exactly once, and nothing else is a child. -/
  children_perm : document.allChildren.Perm (List.range' 1 (document.size - 1))
  /-- A child was made after its parent. -/
  parent_lt : ∀ parent child, child ∈ document.childElements parent → parent < child

section

variable {document : Document} {id child : ElementId} {element : Element}

theorem childElements_of_get? (found : document.get? id = some element) :
    document.childElements id = element.childElements := by
  rw [childElements, found, Option.map_some, Option.getD_some]

theorem mem_childElements_iff (found : document.get? id = some element) :
    child ∈ document.childElements id ↔ .element child ∈ element.children.toList := by
  rw [childElements_of_get? found, Element.childElements_eq, List.mem_filterMap]
  constructor
  · rintro ⟨content, member, same⟩
    cases content with
    | text | cdata => cases same
    | element id =>
        cases same
        exact member
  · exact fun member => ⟨_, member, rfl⟩

theorem exists_get?_of_mem_childElements (member : child ∈ document.childElements id) :
    ∃ element, document.get? id = some element := by
  rw [childElements] at member
  cases found : document.get? id with
  | none => simp [found] at member
  | some element => exact ⟨element, rfl⟩

/-- The child elements of all elements, told by the places of their parents. -/
theorem allChildren_eq (document : Document) :
    document.allChildren = (List.range document.size).flatMap document.childElements := by
  have whole : document.elements.toList.map Element.childElements =
      (List.range document.size).map document.childElements := by
    apply List.ext_getElem?
    intro id
    rw [List.getElem?_map, List.getElem?_map, Array.getElem?_toList]
    by_cases inside : id < document.size
    · obtain ⟨element, found⟩ := exists_get? inside
      rw [List.getElem?_range inside, Option.map_some, childElements_of_get? found]
      rw [get?] at found
      rw [found, Option.map_some]
    · have beyond := Nat.le_of_not_lt inside
      rw [List.getElem?_eq_none (by rwa [List.length_range]), Array.getElem?_eq_none beyond]
      rfl
  rw [allChildren, List.flatMap_def, whole, ← List.flatMap_def]

theorem mem_allChildren (member : child ∈ document.childElements id) :
    child ∈ document.allChildren := by
  obtain ⟨element, found⟩ := exists_get?_of_mem_childElements member
  rw [allChildren_eq]
  exact List.mem_flatMap.mpr ⟨id, List.mem_range.mpr (lt_of_get?_eq_some found), member⟩

theorem IsTree.child_lt (tree : document.IsTree) (member : child ∈ document.childElements id) :
    child < document.size := by
  have listed := tree.children_perm.mem_iff.mp (mem_allChildren member)
  rw [List.mem_range'_1, Nat.add_sub_cancel' tree.size_pos] at listed
  exact listed.2

/-- Every element but the root is a child. -/
theorem IsTree.count_allChildren (tree : document.IsTree) (positive : 0 < child)
    (inside : child < document.size) : document.allChildren.count child = 1 := by
  rw [tree.children_perm.count_eq]
  refine List.count_eq_one_of_mem List.nodup_range' (List.mem_range'_1.mpr ?_)
  rw [Nat.add_sub_cancel' tree.size_pos]
  exact ⟨positive, inside⟩

end

/-! ### What changes of a document do to its children -/

/-- A change of one element adds to the child elements what it adds to those of the element. -/
theorem flatMap_modify_perm {change : Element → Element} {added : List ElementId}
    (changed : ∀ element, (change element).childElements = element.childElements ++ added)
    {elements : List Element} {index : Nat} (inside : index < elements.length) :
    ((elements.modify index change).flatMap Element.childElements).Perm
      (elements.flatMap Element.childElements ++ added) := by
  induction elements generalizing index with
  | nil => exact absurd inside (Nat.not_lt_zero index)
  | cons element elements induction =>
      cases index with
      | zero =>
          rw [List.modify_zero_cons, List.flatMap_cons, List.flatMap_cons, changed,
            List.append_assoc, List.append_assoc]
          exact List.perm_append_comm.append_left _
      | succ index =>
          rw [List.modify_succ_cons, List.flatMap_cons, List.flatMap_cons, List.append_assoc]
          exact (induction (Nat.lt_of_succ_lt_succ inside)).append_left _

theorem allChildren_appendContent {document : Document} {parent : ElementId}
    (inside : parent < document.size) (content : Content) :
    (document.appendContent parent content).allChildren.Perm
      (document.allChildren ++ content.child?.toList) := by
  rw [allChildren, appendContent, Array.toList_modify]
  refine flatMap_modify_perm (fun element => ?_) inside
  rw [Element.childElements_eq, Element.childElements_eq, Array.toList_push, List.filterMap_append]
  cases content <;> rfl

theorem allChildren_setAttribute {document : Document} {id : ElementId}
    (inside : id < document.size) (key value : String) :
    (document.setAttribute id key value).allChildren.Perm document.allChildren := by
  have changed (element : Element) : Element.childElements
      { element with attributes := element.attributes.push (key, value) } =
        element.childElements ++ [] := (List.append_nil _).symm
  have perm := flatMap_modify_perm changed inside
  rw [List.append_nil, ← Array.toList_modify] at perm
  exact perm

theorem allChildren_appendElement {document : Document} {parent : ElementId}
    (inside : parent < document.size) (name : String) :
    (document.appendElement parent name).2.allChildren.Perm
      (document.allChildren ++ [document.size]) := by
  have pushed : Document.allChildren ⟨document.elements.push { name }⟩ = document.allChildren := by
    rw [allChildren, Array.toList_push, List.flatMap_append]
    exact List.append_nil _
  rw [← pushed]
  refine allChildren_appendContent ?_ (.element document.size)
  rw [size, Array.size_push]
  exact Nat.lt_succ_of_lt inside

/-- A document that has been built is a tree. -/
theorem Built.isTree {document : Document} (built : document.Built) : document.IsTree where
  size_pos := built.size_pos
  children_perm := by
    induction built with
    | new name => exact .nil
    | @appendElement document parent built inside name perm =>
        have step : List.range' 1 document.size =
            List.range' 1 (document.size - 1) ++ [document.size] := by
          obtain ⟨count, same⟩ := Nat.exists_eq_succ_of_ne_zero (Nat.ne_of_gt built.size_pos)
          rw [same, Nat.succ_sub_one, List.range'_1_concat, Nat.add_comm]
        rw [size_appendElement, Nat.add_sub_cancel, step]
        exact (allChildren_appendElement inside name).trans (perm.append_right _)
    | @setAttribute document id _ inside key value perm =>
        rw [size_setAttribute]
        exact (allChildren_setAttribute inside key value).trans perm
    | @appendText document parent _ inside value perm =>
        have same := allChildren_appendContent inside (.text value)
        rw [Document.appendText, size_appendContent]
        exact (same.trans (.of_eq (List.append_nil _))).trans perm
    | @appendCData document parent _ inside value perm =>
        have same := allChildren_appendContent inside (.cdata value)
        rw [Document.appendCData, size_appendContent]
        exact (same.trans (.of_eq (List.append_nil _))).trans perm
  parent_lt parent child member := by
    obtain ⟨element, found⟩ := exists_get?_of_mem_childElements member
    have listed := Array.mem_toList_iff.mp ((mem_childElements_iff found).mp member)
    exact (built.isOrdered parent element found child listed).1

end Document
end Rulebook
