import Rulebook.Document.Usage

/-!
# Building a document

A builder writes at a cursor.  What it has to do is a list of steps, so that the content of a rule
can be put together before there is a document to write it into.
-/

namespace Rulebook

/-- One thing to do at the cursor. -/
inductive Step where
  /-- Adds an element and does the steps inside it. -/
  | element (name : String) (body : List Step)
  /-- Does the steps inside an element that is there already. -/
  | within (id : ElementId) (body : List Step)
  /-- Adds an attribute to the element at the cursor. -/
  | setAttribute (key value : String)
  /-- Adds text. -/
  | text (value : String)
  /-- Adds text that is written as it is. -/
  | cdata (value : String)
  /-- Notes a reference between rules. -/
  | reference (target user : String)
  /-- Notes that the element at the cursor declares a name. -/
  | declare (name : String)

namespace Step

/-- An element that contains nothing. -/
def empty (name : String) : Step :=
  element name []

/-- A sign of the notation. -/
def symbol (sign : String) : Step :=
  element "symbol" [cdata sign]

/-- A piece of text. -/
def string (value : String) : Step :=
  element "string" [cdata value]

/-- The text of a number of blanks. -/
def blanks (count : Nat) : String :=
  String.join (List.replicate count "&nbsp;")

/-- A number of blanks. -/
def whitespace (count : Nat) : Step :=
  string (blanks count)

/-- The end of a line. -/
def lineEnd : Step :=
  empty "crlf"

/-- A piece of documentation, if there is one. -/
def documentation : Option String → List Step
  | some value => [element "doc" [cdata value]]
  | none => []

end Step

/-- A document under construction with a cursor and an index of usages. -/
structure Builder where
  /-- The document so far. -/
  document : Document
  /-- The elements around the cursor, the innermost first. -/
  cursor : List ElementId
  /-- The usages noted so far. -/
  usages : UsageIndex := {}
  deriving DecidableEq, Repr

namespace Builder

/-- A builder whose document consists of its root. -/
def new (root : String) : Builder :=
  { document := Document.new root, cursor := [Document.root] }

/-- The element at the cursor. -/
def current (builder : Builder) : ElementId :=
  builder.cursor.headD Document.root

/-- Moves the cursor into an element. -/
def enter (builder : Builder) (id : ElementId) : Builder :=
  { builder with cursor := id :: builder.cursor }

/-- Moves the cursor back to where it was before the last move. -/
def leave (builder : Builder) : Builder :=
  { builder with cursor := builder.cursor.tail }

/-- Changes the document at the cursor. -/
def edit (change : Document → ElementId → Document) : Builder → Builder
  | ⟨document, cursor, usages⟩ =>
      ⟨change document (cursor.headD Document.root), cursor, usages⟩

/-- Changes the index of usages. -/
def note (change : UsageIndex → UsageIndex) : Builder → Builder
  | ⟨document, cursor, usages⟩ => ⟨document, cursor, change usages⟩

/-- Adds an element at the cursor. -/
def append (builder : Builder) (name : String) : ElementId × Builder :=
  (builder.document.size,
    builder.edit fun document parent => (document.appendElement parent name).2)

mutual

/-- Does a step. -/
def perform : Step → Builder → Builder
  | .element name body, builder =>
      let appended := builder.append name
      (performAll body (appended.2.enter appended.1)).leave
  | .within id body, builder => (performAll body (builder.enter id)).leave
  | .setAttribute key value, builder =>
      builder.edit fun document id => document.setAttribute id key value
  | .text value, builder => builder.edit fun document id => document.appendText id value
  | .cdata value, builder => builder.edit fun document id => document.appendCData id value
  | .reference target user, builder => builder.note fun usages => usages.reference target user
  | .declare name, builder =>
      let id := builder.current
      builder.note fun usages => usages.declare name id

/-- Does steps in order. -/
def performAll : List Step → Builder → Builder
  | [], builder => builder
  | step :: later, builder => performAll later (perform step builder)

end

/-- The document with the lists of users. -/
def finish (builder : Builder) : Document :=
  builder.usages.flush builder.document

end Builder
end Rulebook
