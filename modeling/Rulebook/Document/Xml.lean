import Rulebook.Document.Tree

/-!
# Written documents

A document is written as XML, two spaces of indent per level.  A tag starts a line of its own unless
text stands directly before it.  Text that is written as it is goes into sections, and a section
ends inside every terminator that the text contains.
-/

namespace Rulebook
namespace Xml

/-- A character of text or of an attribute value as it is written. -/
def escapeCharacter (character : Char) : List Char :=
  if character = '<' then "&lt;".toList
  else if character = '>' then "&gt;".toList
  else if character = '&' then "&amp;".toList
  else if character = '\'' then "&apos;".toList
  else if character = '"' then "&quot;".toList
  else [character]

/-- Text or an attribute value as it is written. -/
def escape (text : String) : List Char :=
  text.toList.flatMap escapeCharacter

/-- What opens a section of text that is written as it is. -/
def sectionOpening : List Char :=
  "<![CDATA[".toList

/-- What closes a section of text that is written as it is. -/
def sectionClosing : List Char :=
  "]]>".toList

/-- The text of a section; where it contains the terminator, one section ends after the two brackets
and the next begins with the angle. -/
def sectionText : List Char → List Char
  | ']' :: ']' :: '>' :: rest =>
      ']' :: ']' :: sectionClosing ++ sectionOpening ++ '>' :: sectionText rest
  | character :: rest => character :: sectionText rest
  | [] => []

/-- Text in as many sections as it needs. -/
def sections (text : String) : List Char :=
  sectionOpening ++ sectionText text.toList ++ sectionClosing

/-- An attribute inside a tag. -/
def attributeText (entry : String × String) : List Char :=
  ' ' :: entry.1.toList ++ '=' :: '"' :: escape entry.2 ++ ['"']

/-- The start of a line at a level, unless the line goes on. -/
def lineStart (depth : Nat) (breaks : Bool) : List Char :=
  if breaks then '\n' :: List.replicate (2 * depth) ' ' else []

/-- The name and the attributes of a tag. -/
def tag (name : String) (attributes : List (String × String)) : List Char :=
  name.toList ++ attributes.flatMap attributeText

/-- Does a tag that follows the contents start a line? -/
def breaksAfter (children : List Tree) : Bool :=
  match children.getLast? with
  | some last => last.isElement
  | none => true

mutual

/-- A tree as it is written at a level; `breaks` tells whether a tag starts a line here. -/
def write (depth : Nat) (breaks : Bool) : Tree → List Char
  | .text value => escape value
  | .cdata value => sections value
  | .element _ name attributes children =>
      lineStart depth breaks ++ '<' :: tag name attributes ++
        if children.isEmpty then ['/', '>']
        else
          '>' :: writeAll (depth + 1) true children ++
            lineStart depth (breaksAfter children) ++ '<' :: '/' :: name.toList ++ ['>']

/-- A row of trees as they are written at a level. -/
def writeAll (depth : Nat) (breaks : Bool) : List Tree → List Char
  | [] => []
  | tree :: later => write depth breaks tree ++ writeAll depth tree.isElement later

end

/-- The line before the root. -/
def declaration : List Char :=
  "<?xml version=\"1.0\" encoding=\"UTF-8\"?>".toList

end Xml

/-- The document as it is written. -/
def Document.toXml (document : Document) : String :=
  String.ofList <|
    Xml.declaration ++ ((document.treeAt? root).map (Xml.write 0 true)).getD [] ++ ['\n']

end Rulebook
