import Rulebook.Document.Arena

/-!
# Documents as trees

The elements of a document form a tree below its root.  It is put together from the last element to
the first, for the children of an element were all made after it.
-/

namespace Rulebook

/-- A document as it is written: elements with their place in the order of making, and text. -/
inductive Tree where
  /-- An element with its attributes and contents. -/
  | element (id : ElementId) (name : String) (attributes : List (String × String))
      (children : List Tree)
  /-- Text, which is escaped when written. -/
  | text (value : String)
  /-- Text that is written as it is. -/
  | cdata (value : String)

namespace Tree

/-- Is it an element? -/
def isElement : Tree → Bool
  | element .. => true
  | _ => false

mutual

/-- The elements with a name, from a tree downwards, each before those that it contains. -/
def named (name : String) : Tree → List ElementId
  | element id tag _ children =>
      if tag = name then id :: namedAll name children else namedAll name children
  | text _ => []
  | cdata _ => []

/-- The elements with a name in a row of trees. -/
def namedAll (name : String) : List Tree → List ElementId
  | [] => []
  | tree :: later => named name tree ++ namedAll name later

end

/-- The elements with a name below the top of a tree. -/
def descendantsNamed (name : String) : Tree → List ElementId
  | element _ _ _ children => namedAll name children
  | _ => []

mutual

/-- The text in a tree, escaped or not, from left to right. -/
def textContent : Tree → String
  | element _ _ _ children => textContentAll children
  | text value => value
  | cdata value => value

/-- The text in a row of trees. -/
def textContentAll : List Tree → String
  | [] => ""
  | tree :: later => textContent tree ++ textContentAll later

end
end Tree

/-- The tree of a content of the element `parent`.  `later` holds the trees of all elements made
after it, the last made first. -/
def Content.tree? (parent : ElementId) (later : Array Tree) : Content → Option Tree
  | .element id =>
      if parent < id ∧ id - parent ≤ later.size then later[later.size - (id - parent)]? else none
  | .text value => some (.text value)
  | .cdata value => some (.cdata value)

/-- The tree of an element, given the trees of all elements made after it. -/
def Element.tree (id : ElementId) (later : Array Tree) (element : Element) : Tree :=
  .element id element.name element.attributes.toList
    (element.children.toList.filterMap (Content.tree? id later))

namespace Document

/-- The trees of all elements, the last made first. -/
def trees (document : Document) : Array Tree :=
  document.elements.toList.zipIdx.foldr
    (fun numbered later => later.push (numbered.1.tree numbered.2 later)) #[]

/-- The tree of an element. -/
def treeAt? (document : Document) (id : ElementId) : Option Tree :=
  if id < document.size then document.trees[document.size - 1 - id]? else none

/-- The elements with a name below an element, in the order in which they are written. -/
def descendantsNamed (document : Document) (parent : ElementId) (name : String) :
    List ElementId :=
  ((document.treeAt? parent).map (Tree.descendantsNamed name)).getD []

/-- The text below an element. -/
def textContent (document : Document) (id : ElementId) : String :=
  ((document.treeAt? id).map Tree.textContent).getD ""

end Document
end Rulebook
