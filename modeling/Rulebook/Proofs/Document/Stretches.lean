import Rulebook.Document.Xml
import Rulebook.Proofs.Document.Traversal

/-!
# Elements of a written document

A written document is a row of stretches: tags that open and close elements, and text.  A document that
is a tree opens every element once, in the order in which they are reached from the root.
-/

namespace Rulebook

/-! ### Stretches -/

namespace Xml

/-- One stretch of a written document. -/
inductive Stretch where
  /-- The tag that opens an element at a level, or all of it if it contains nothing. -/
  | opening (head : Tree.Head) (depth : Nat) (breaks childless : Bool)
  /-- The tag that closes an element. -/
  | closing (name : String) (depth : Nat) (breaks : Bool)
  /-- Text, which is escaped. -/
  | text (value : String)
  /-- Text in sections. -/
  | cdata (value : String)

namespace Stretch

/-- The element that a stretch opens. -/
def opened? : Stretch → Option Tree.Head
  | opening head .. => some head
  | _ => none

/-- A stretch as it is written. -/
def written : Stretch → List Char
  | opening head depth breaks childless =>
      lineStart depth breaks ++ '<' :: head.name.toList ++
        head.attributes.flatMap (fun entry =>
          ' ' :: entry.1.toList ++ '=' :: '"' :: escape entry.2 ++ ['"']) ++
        if childless then ['/', '>'] else ['>']
  | closing name depth breaks => lineStart depth breaks ++ '<' :: '/' :: name.toList ++ ['>']
  | text value => escape value
  | cdata value => sections value

end Stretch

theorem tag_eq (name : String) (attributes : List (String × String)) :
    tag name attributes = name.toList ++ attributes.flatMap fun entry =>
      ' ' :: entry.1.toList ++ '=' :: '"' :: escape entry.2 ++ ['"'] :=
  rfl

mutual

/-- The stretches of a tree at a level. -/
def stretches (depth : Nat) (breaks : Bool) : Tree → List Stretch
  | .text value => [.text value]
  | .cdata value => [.cdata value]
  | .element id name attributes children =>
      .opening ⟨id, name, attributes⟩ depth breaks children.isEmpty ::
        (stretchesAll (depth + 1) true children ++
          if children.isEmpty then [] else [.closing name depth (breaksAfter children)])

/-- The stretches of a row of trees at a level. -/
def stretchesAll (depth : Nat) (breaks : Bool) : List Tree → List Stretch
  | [] => []
  | tree :: later => stretches depth breaks tree ++ stretchesAll depth tree.isElement later

end

mutual

/-- What is written are the stretches of a tree. -/
theorem write_eq (depth : Nat) (breaks : Bool) : ∀ tree : Tree,
    write depth breaks tree = (stretches depth breaks tree).flatMap Stretch.written
  | .text value => (List.append_nil _).symm
  | .cdata value => (List.append_nil _).symm
  | .element id name attributes [] => by
      simp [write, stretches, stretchesAll, Stretch.written, tag_eq]
  | .element id name attributes (child :: later) => by
      rw [write, stretches, writeAll_eq (depth + 1) true (child :: later)]
      simp [Stretch.written, tag_eq]

theorem writeAll_eq (depth : Nat) (breaks : Bool) : ∀ trees : List Tree,
    writeAll depth breaks trees = (stretchesAll depth breaks trees).flatMap Stretch.written
  | [] => rfl
  | tree :: later => by
      rw [writeAll, stretchesAll, write_eq depth breaks tree, writeAll_eq depth _ later,
        List.flatMap_append]

end

mutual

/-- The stretches open the elements of a tree in order. -/
theorem filterMap_opened? (depth : Nat) (breaks : Bool) : ∀ tree : Tree,
    (stretches depth breaks tree).filterMap Stretch.opened? = tree.heads
  | .text value => rfl
  | .cdata value => rfl
  | .element id name attributes children => by
      have closed : (if children.isEmpty then []
          else [Stretch.closing name depth (breaksAfter children)]).filterMap Stretch.opened? = [] := by
        split <;> rfl
      have opened (childless : Bool) :
          (Stretch.opening ⟨id, name, attributes⟩ depth breaks childless).opened? =
            some ⟨id, name, attributes⟩ := rfl
      rw [stretches, List.filterMap_cons_some (opened _), List.filterMap_append, closed,
        List.append_nil, filterMap_opened?_all (depth + 1) true children, Tree.heads]

theorem filterMap_opened?_all (depth : Nat) (breaks : Bool) : ∀ trees : List Tree,
    (stretchesAll depth breaks trees).filterMap Stretch.opened? = Tree.headsAll trees
  | [] => rfl
  | tree :: later => by
      rw [stretchesAll, List.filterMap_append, filterMap_opened? depth breaks tree,
        filterMap_opened?_all depth _ later, Tree.headsAll]

end
end Xml

/-! ### Every element once -/

namespace Document

/-- The stretches of a written document, without the line before its root. -/
def stretches (document : Document) : List Xml.Stretch :=
  ((document.treeAt? root).map (Xml.stretches 0 true)).getD []

/-- The elements that are opened when a document is written. -/
def opened (document : Document) : List Tree.Head :=
  document.stretches.filterMap Xml.Stretch.opened?

theorem opened_eq (document : Document) : document.opened = document.headsFrom root := by
  rw [opened, stretches, headsFrom]
  cases document.treeAt? root with
  | none => rfl
  | some tree => exact Xml.filterMap_opened? 0 true tree

theorem toXml_eq (document : Document) : document.toXml =
    String.ofList (Xml.declaration ++ document.stretches.flatMap Xml.Stretch.written ++ ['\n']) := by
  rw [toXml, stretches]
  cases document.treeAt? root with
  | none => rfl
  | some tree => rw [Option.map_some, Option.getD_some, Xml.write_eq]; rfl

/-- Do walks over a document come to an end, and do those from its root pass every element once? -/
structure IsTraversed (document : Document) : Prop where
  /-- There is no endless way down. -/
  wellFounded_child : WellFounded fun child parent => child ∈ document.childElements parent
  /-- The tree of an element is made of the trees of its contents. -/
  treeAt?_eq : ∀ id element, document.get? id = some element →
    document.treeAt? id = some (.element id element.name element.attributes.toList
      (element.children.toList.filterMap document.shownTree?))
  /-- The text of an element is that of its contents in order. -/
  textContent_eq : ∀ id element, document.get? id = some element →
    document.textContent id = String.join (element.children.toList.map document.shownText)
  /-- The elements with a name below an element are found below its children and among them. -/
  descendantsNamed_eq : ∀ id, id < document.size → ∀ name,
    document.descendantsNamed id name = (document.childElements id).flatMap fun child =>
      (if document.nameOf? child = some name then [child] else []) ++
        document.descendantsNamed child name
  /-- What is written are the stretches of the document. -/
  toXml_eq : document.toXml =
    String.ofList (Xml.declaration ++ document.stretches.flatMap Xml.Stretch.written ++ ['\n'])
  /-- Every element is opened once. -/
  opened_perm : (document.opened.map Tree.Head.id).Perm (List.range document.size)
  /-- The tag that opens an element shows its name and its attributes. -/
  get?_of_mem_opened : ∀ head ∈ document.opened, ∃ element, document.get? head.id = some element ∧
    head.name = element.name ∧ head.attributes = element.attributes.toList
  /-- Every element with a name is found once, unless it is the root. -/
  descendantsNamed_perm : ∀ name, (document.descendantsNamed root name).Perm
    ((List.range' 1 (document.size - 1)).filter fun id => document.nameOf? id = some name)
  /-- The elements with a name are found in the order in which they are opened. -/
  descendantsNamed_root : ∀ name, document.descendantsNamed root name =
    (document.opened.filter fun head => head.id ≠ root ∧ head.name = name).map Tree.Head.id

/-- Every walk over a tree comes to an end, and from the root it passes every element once. -/
theorem IsTree.isTraversed {document : Document} (tree : document.IsTree) :
    document.IsTraversed where
  wellFounded_child := tree.wellFounded_child
  treeAt?_eq _ _ := tree.treeAt?_eq
  textContent_eq _ _ := tree.textContent_eq
  descendantsNamed_eq _ := tree.descendantsNamed_eq
  toXml_eq := document.toXml_eq
  opened_perm := by
    rw [opened_eq]
    exact tree.preorder_root_perm
  get?_of_mem_opened head member := by
    rw [opened_eq] at member
    exact tree.get?_of_mem_headsFrom tree.root_lt member
  descendantsNamed_perm := tree.descendantsNamed_root_perm
  descendantsNamed_root name := by
    obtain ⟨element, found⟩ := exists_get? tree.root_lt
    have below : ∀ head ∈ (document.headsFrom root).tail, head.id ≠ root := by
      intro head member same
      have listed := tree.preorder_root_tail_perm.mem_iff.mp
        (List.map_tail ▸ List.mem_map_of_mem member)
      exact absurd (List.mem_range'_1.mp (same ▸ listed)).1 (by decide)
    rw [opened_eq, descendantsNamed_eq_filter]
    rw [tree.headsFrom_eq found, List.tail_cons] at below ⊢
    rw [List.filter_cons_of_neg (by simp)]
    refine congrArg (List.map Tree.Head.id) (List.filter_congr fun head member => ?_)
    simp [below head member]

end Document
end Rulebook
