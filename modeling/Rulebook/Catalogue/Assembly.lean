import Rulebook.Catalogue.Entry
import Rulebook.Docs
import Rulebook.Document.Xml
import Rulebook.Rendering.Selection

/-!
# The catalogue of a grammar

The catalogue holds the entries of the parser rules and then those of the lexer rules.  A rule that
opens a section opens a set for itself and the rules after it.  A rule that has been absorbed opens
its section all the same, but has no entry.  Documentation comes from a store of texts by key.
-/

namespace Rulebook

namespace Catalogue

/-- The key of the text about the notation. -/
def notationKey : String :=
  "description"

/-- The key of the text about a rule. -/
def ruleKey (heading? : Option String) (name : String) : String :=
  match heading? with
  | some title => title ++ "/" ++ name
  | none => name

/-- The keys of the texts about some rules and the sections that they open. -/
def entryKeys (grammar : Grammar) (settings : Settings) :
    (heading? : Option String) → List Rule → List String
  | _, [] => []
  | heading?, rule :: later =>
      let opened? :=
        Section.openedAt? (grammar.source rule.kind) settings.sectionMarkerOffset rule.line
      let current? := opened?.or heading?
      opened?.toList ++ ruleKey current? rule.name :: entryKeys grammar settings current? later

/-- The keys of all texts that a catalogue can show. -/
def keys (grammar : Grammar) (settings : Settings) : List String :=
  notationKey ::
    entryKeys grammar settings none (grammar.renderedRules settings .parser) ++
      entryKeys grammar settings none (grammar.renderedRules settings .lexer)

/-- What a set begins with: its key and its documentation. -/
def setHead (docs : Docs) (key : String) : List Step :=
  .setAttribute "file-name" key :: Step.documentation (docs key)

/-- Where entries are being written. -/
structure Emission where
  /-- The document so far, with the cursor at its root. -/
  builder : Builder
  /-- The set into which the entries go, or the root. -/
  context : ElementId := Document.root
  /-- The section that was opened last. -/
  heading? : Option String := none

namespace Emission

/-- Opens a set for a section. -/
def openSection (docs : Docs) (title : String) (emission : Emission) : Emission :=
  let (context, builder) := emission.builder.append "set"
  { builder := Builder.perform (.within context (setHead docs title)) builder
    context
    heading? := some title }

/-- Writes the entry of a rule with its documentation. -/
def writeEntry (docs : Docs) (rule : Rule) (steps : List Step) (emission : Emission) : Emission :=
  let helper : List Step :=
    if rule.isFragment then [.element "annotation" [.text "helper"]] else []
  let entry : List Step :=
    Step.documentation (docs (ruleKey emission.heading? rule.name)) ++
      [.element "item" (helper ++ steps)]
  { emission with builder := Builder.perform (.within emission.context entry) emission.builder }

/-- Writes a rendered rule: opens its section, and writes its entry unless it has been absorbed. -/
def emit (docs : Docs) (inlining : Inlining) (emission : Emission) (rendered : Rule × Piece) :
    Emission :=
  let opened :=
    match rendered.2.heading? with
    | some title => emission.openSection docs title
    | none => emission
  if inlining.absorbs rendered.1.name then opened
  else opened.writeEntry docs rendered.1 rendered.2.steps

end Emission

/-- Writes rendered rules of one namespace in order; the first stands outside any section. -/
def emitRules (docs : Docs) (inlining : Inlining) (rendered : List (Rule × Piece))
    (builder : Builder) : Builder :=
  (rendered.foldl (Emission.emit docs inlining) { builder }).builder

/-- The set about the notation. -/
def notationSet (docs : Docs) : Step :=
  .element "set" (setHead docs notationKey)

/-- Builds the catalogue.  Parser rules are written before lexer rules are rendered, so that what
only a lexer rule absorbs is still written among the parser rules. -/
def build (grammar : Grammar) (settings : Settings) (docs : Docs) :
    Except MissingOperand Builder := do
  let builder := Builder.perform (notationSet docs) (Builder.new "tokens")
  let (parserPart, state) ←
    (renderRules (renderer grammar settings) (grammar.renderedRules settings .parser)).run {}
  let builder := emitRules docs state.inlining parserPart builder
  let (lexerPart, state) ←
    (renderRules (renderer grammar settings) (grammar.renderedRules settings .lexer)).run state
  return emitRules docs state.inlining lexerPart builder

/-- The document of a grammar. -/
def document (grammar : Grammar) (settings : Settings) (docs : Docs) :
    Except MissingOperand Document := do
  let builder ← build grammar settings docs
  return builder.finish

/-- The catalogue of a grammar as it is written. -/
def ofGrammar (grammar : Grammar) (settings : Settings) (docs : Docs) :
    Except MissingOperand String := do
  let document ← document grammar settings docs
  return document.toXml

end Catalogue
end Rulebook
