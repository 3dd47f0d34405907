/-!
# Documents under construction

A document keeps its elements in the order in which they were made, so that an element can be
extended after others have been added.  The first element is the root, and a child is always made
after its parent.
-/

namespace Rulebook

/-- The place of an element in the order in which the elements were made. -/
abbrev ElementId : Type :=
  Nat

/-- What an element can contain. -/
inductive Content where
  /-- Another element. -/
  | element (id : ElementId)
  /-- Text, which is escaped when written. -/
  | text (value : String)
  /-- Text that is written as it is. -/
  | cdata (value : String)
  deriving DecidableEq, Repr

/-- An element with its attributes and contents in order. -/
structure Element where
  /-- The tag. -/
  name : String
  /-- Keys and values. -/
  attributes : Array (String × String) := #[]
  /-- The contents. -/
  children : Array Content := #[]
  deriving DecidableEq, Repr

namespace Element

/-- The value of the first attribute with a key. -/
def valueOf? (element : Element) (key : String) : Option String :=
  (element.attributes.find? fun entry => entry.1 == key).map Prod.snd

/-- The child elements, in order. -/
def childElements (element : Element) : List ElementId :=
  element.children.toList.filterMap fun
    | .element id => some id
    | _ => none

end Element

/-- The elements of a document, the root first. -/
structure Document where
  /-- The elements in the order in which they were made. -/
  elements : Array Element
  deriving DecidableEq, Repr

namespace Document

/-- The root of every document. -/
def root : ElementId :=
  0

/-- The document that consists of its root. -/
def new (name : String) : Document :=
  ⟨#[{ name }]⟩

/-- The number of elements. -/
def size (document : Document) : Nat :=
  document.elements.size

/-- An element. -/
def get? (document : Document) (id : ElementId) : Option Element :=
  document.elements[id]?

/-- Adds to the contents of an element. -/
def appendContent (document : Document) (parent : ElementId) (content : Content) : Document :=
  ⟨document.elements.modify parent fun element =>
    { element with children := element.children.push content }⟩

/-- Adds a new element to the contents of another. -/
def appendElement (document : Document) (parent : ElementId) (name : String) :
    ElementId × Document :=
  let id := document.size
  (id, appendContent ⟨document.elements.push { name }⟩ parent (.element id))

/-- Adds an attribute to an element. -/
def setAttribute (document : Document) (id : ElementId) (key value : String) : Document :=
  ⟨document.elements.modify id fun element =>
    { element with attributes := element.attributes.push (key, value) }⟩

/-- Adds text to an element. -/
def appendText (document : Document) (parent : ElementId) (value : String) : Document :=
  document.appendContent parent (.text value)

/-- Adds text that is written as it is. -/
def appendCData (document : Document) (parent : ElementId) (value : String) : Document :=
  document.appendContent parent (.cdata value)

/-- The child elements of an element, in order. -/
def childElements (document : Document) (parent : ElementId) : List ElementId :=
  ((document.get? parent).map Element.childElements).getD []

end Document
end Rulebook
