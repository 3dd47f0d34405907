import Rulebook.Document.Xml
import Rulebook.Proofs.Document.Flush
import Rulebook.Proofs.Document.Traversal

/-!
# Documents with lists

A document that has gained lists at the end of its elements reads as its trees with these lists, and
what it is written as only depends on what it reads as.
-/

namespace Rulebook

/-! ### Trees with lists -/

namespace Tree

mutual

/-- A tree with a list at the end of each of its elements. -/
def withLists (lists : ElementId → List Markup) : Tree → Markup
  | element id name attributes children =>
      .element name attributes (withListsAll lists children ++ lists id)
  | text value => .text value
  | cdata value => .cdata value

/-- A row of trees with a list at the end of each element. -/
def withListsAll (lists : ElementId → List Markup) : List Tree → List Markup
  | [] => []
  | tree :: later => withLists lists tree :: withListsAll lists later

end

theorem withListsAll_eq (lists : ElementId → List Markup) (trees : List Tree) :
    withListsAll lists trees = trees.map (withLists lists) := by
  induction trees with
  | nil => rfl
  | cons tree later induction => rw [withListsAll, induction, List.map_cons]

theorem markupAll_eq (trees : List Tree) : markupAll trees = trees.map markup := by
  induction trees with
  | nil => rfl
  | cons tree later induction => rw [markupAll, induction, List.map_cons]

theorem isElement_eq_of_markup_eq : ∀ {first second : Tree}, first.markup = second.markup →
    first.isElement = second.isElement
  | element .., element .., _ => rfl
  | text _, text _, _ => rfl
  | cdata _, cdata _, _ => rfl

end Tree

namespace Xml

theorem breaksAfter_eq_of_markupAll_eq {first second : List Tree}
    (same : Tree.markupAll first = Tree.markupAll second) :
    breaksAfter first = breaksAfter second := by
  rw [Tree.markupAll_eq, Tree.markupAll_eq] at same
  have last : first.getLast?.map Tree.markup = second.getLast?.map Tree.markup := by
    rw [← List.getLast?_map, ← List.getLast?_map, same]
  rw [breaksAfter, breaksAfter]
  cases one : first.getLast? with
  | none =>
      cases other : second.getLast? with
      | none => rfl
      | some tree => simp [one, other] at last
  | some tree =>
      cases other : second.getLast? with
      | none => simp [one, other] at last
      | some mate =>
          rw [one, other] at last
          exact Tree.isElement_eq_of_markup_eq (Option.some.inj last)

mutual

/-- What is written does not show the places of elements. -/
theorem write_eq_of_markup_eq (depth : Nat) (breaks : Bool) : ∀ {first second : Tree},
    first.markup = second.markup → write depth breaks first = write depth breaks second
  | .element _ name attributes children, .element _ also others contents, same => by
      simp only [Tree.markup, Markup.element.injEq] at same
      obtain ⟨rfl, rfl, rows⟩ := same
      have lengths := congrArg List.isEmpty rows
      rw [Tree.markupAll_eq, Tree.markupAll_eq, List.isEmpty_map, List.isEmpty_map] at lengths
      rw [write, write, writeAll_eq_of_markupAll_eq (depth + 1) true rows,
        breaksAfter_eq_of_markupAll_eq rows, lengths]
  | .text _, .text _, same => by
      rw [Markup.text.inj same]
  | .cdata _, .cdata _, same => by
      rw [Markup.cdata.inj same]

theorem writeAll_eq_of_markupAll_eq (depth : Nat) (breaks : Bool) : ∀ {first second : List Tree},
    Tree.markupAll first = Tree.markupAll second →
      writeAll depth breaks first = writeAll depth breaks second
  | [], [], _ => rfl
  | tree :: later, mate :: others, same => by
      obtain ⟨head, tail⟩ := List.cons.inj same
      rw [writeAll, writeAll, write_eq_of_markup_eq depth breaks head,
        Tree.isElement_eq_of_markup_eq head, writeAll_eq_of_markupAll_eq depth _ tail]

end
end Xml

namespace Document

/-- Contents of which each reads with lists read with lists in a row. -/
theorem markupAll_filterMap {before after : Document} {lists : ElementId → List Markup}
    {parent : ElementId} {contents : List Content}
    (each : ∀ content ∈ contents, (after.contentTree? parent content).map Tree.markup =
      (before.contentTree? parent content).map (Tree.withLists lists)) :
    Tree.markupAll (contents.filterMap (after.contentTree? parent)) =
      Tree.withListsAll lists (contents.filterMap (before.contentTree? parent)) := by
  rw [Tree.markupAll_eq, Tree.withListsAll_eq, List.map_filterMap, List.map_filterMap]
  exact List.filterMap_congr each

/-- A document with lists at the end of its elements reads as its trees with these lists. -/
theorem Lists.map_treeAt? {before after : Document} {lists : ElementId → List Markup}
    (listed : before.Lists before.size lists after) (tree : before.IsTree) {id : ElementId}
    (inside : id < before.size) :
    (after.treeAt? id).map Tree.markup = (before.treeAt? id).map (Tree.withLists lists) := by
  refine tree.childInduction (motive := fun id => (after.treeAt? id).map Tree.markup =
    (before.treeAt? id).map (Tree.withLists lists)) ?_ inside
  intro id inside induction
  obtain ⟨element, found⟩ := exists_get? inside
  obtain ⟨added, extended, holds⟩ := listed.extended id element inside found
  have own : Tree.markupAll (element.children.toList.filterMap (after.contentTree? id)) =
      Tree.withListsAll lists (element.children.toList.filterMap (before.contentTree? id)) := by
    refine markupAll_filterMap fun content member => ?_
    cases content with
    | text | cdata => rfl
    | element child =>
        have present := (mem_childElements_iff found).mpr member
        have later := tree.parent_lt id child present
        rw [contentTree?, contentTree?, if_pos later, if_pos later]
        exact induction child present
  -- What is added stands behind all elements that were there, so also behind this one.
  have behind : after.HoldsAll (id + 1) added (lists id) := holds.frame inside fun _ _ _ same => same
  obtain ⟨trees, read, written⟩ := behind.contentTrees id
  rw [Document.treeAt?_eq extended, Document.treeAt?_eq found, Option.map_some, Option.map_some,
    Tree.markup, Tree.withLists, ← own, ← written, ← read]
  simp [Element.extend, Tree.markupAll_eq]

end Document

end Rulebook
