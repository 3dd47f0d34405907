import Rulebook.Toml.Scalar
import Rulebook.Toml.Table
import Rulebook.Toml.Token

/-!
# Reading a settings file

Groups are read from the inside out, so that a line is a row of items without anything below them.
A line opens a table, opens one more table of many, or gives a key its value.
-/

namespace Rulebook
namespace Toml

/-- A token as the reader of lines meets it. -/
inductive Item where
  /-- A token that holds no other tokens. -/
  | leaf (leaf : Leaf)
  /-- Square brackets: the array between them, if it is one, and the tokens themselves. -/
  | brackets (array? : Option Value) (content : List TokenTree)
  /-- Curly brackets: the table between them, if it is one. -/
  | braces (table? : Option Value)

/-- Is the item white space within a line? -/
def Item.isBlank : Item → Bool
  | .leaf (.blank _) => true
  | _ => false

/-- Is the item white space or the end of a line? -/
def Item.isSpace : Item → Bool
  | .leaf (.blank _) | .leaf .lineEnd => true
  | _ => false

/-- Is the item a certain mark? -/
def Item.isMark (symbol : Char) : Item → Bool
  | .leaf (.mark found) => found == symbol
  | _ => false

/-- Is the item the end of a line? -/
def Item.isLineEnd : Item → Bool
  | .leaf .lineEnd => true
  | _ => false

/-- The items without those at either end that satisfy a condition. -/
def trim (isSpace : Item → Bool) (items : List Item) : List Item :=
  ((items.dropWhile isSpace).reverse.dropWhile isSpace).reverse

/-- The items before, between and after those that satisfy a condition. -/
def splitAt (separates : Item → Bool) (items : List Item) : List (List Item) :=
  let split := items.foldr
    (fun item (split : List Item × List (List Item)) =>
      if separates item then ([], split.1 :: split.2) else (item :: split.1, split.2))
    ([], [])
  split.1 :: split.2

/-- The characters of words, full stops and blanks. -/
def plainText? : List Item → Option (List Char)
  | [] => some []
  | .leaf (.word text) :: later => (plainText? later).map (text.toList ++ ·)
  | .leaf (.blank text) :: later => (plainText? later).map (text.toList ++ ·)
  | .leaf (.mark '.') :: later => (plainText? later).map ('.' :: ·)
  | _ :: _ => none

/-- The value that items without white space at either end denote. -/
def value? : List Item → Option Value
  | [.leaf (.string text _)] => some (.text text)
  | [.brackets array? _] => array?
  | [.braces table?] => table?
  | items => (plainText? items).bind scalar?

/-- May the character stand in a key without quotes? -/
def isKeyCharacter (character : Char) : Bool :=
  character.isAlphanum || character == '-' || character == '_'

/-- One part of a dotted key. -/
def keyPart? (items : List Item) : Option String :=
  match trim Item.isBlank items with
  | [.leaf (.word text)] => if text.toList.all isKeyCharacter then some text else none
  | [.leaf (.string text true)] => some text
  | _ => none

/-- The number of parts that a key may have. -/
def maxParts : Nat :=
  80

/-- A key of parts separated by full stops. -/
def key? (items : List Item) : Option (List String) :=
  let parts := splitAt (Item.isMark '.') items
  if parts.length ≤ maxParts then parts.mapM keyPart? else none

/-- A key and its value on both sides of an equals sign; between brackets lines may end around
it. -/
def assignment? (items : List Item) : Option (List String × Value) := do
  let left := items.takeWhile fun item => !item.isMark '='
  let path ← key? (trim Item.isSpace left)
  match items.drop left.length with
  | [] => none
  | _ :: right =>
      let value ← value? (trim Item.isSpace right)
      return (path, value)

/-- The members between commas, where lines may end around a member and a comma may follow the last
one. -/
def members? {Member : Type} (member? : List Item → Option Member) :
    List (List Item) → Option (List Member)
  | [] => some []
  | [last] =>
      let last := trim Item.isSpace last
      if last.isEmpty then some [] else (member? last).map fun member => [member]
  | items :: later => do
      let member ← member? (trim Item.isSpace items)
      let members ← members? member? later
      return member :: members

/-- The array between square brackets. -/
def array? (items : List Item) : Option Value :=
  (members? value? (splitAt (Item.isMark ',') items)).map Value.array

/-- Gives keys their values one after the other. -/
def setAll : List (List String × Value) → Entries → Option Entries
  | [], entries => some entries
  | (path, value) :: later, entries => (entries.set path value).bind (setAll later)

/-- The table between curly brackets. -/
def inlineTable? (items : List Item) : Option Value := do
  let assignments ← members? assignment? (splitAt (Item.isMark ',') items)
  let entries ← setAll assignments []
  return .table (finishEntries entries)

mutual

/-- The token tree as the reader of lines meets it. -/
def TokenTree.item : TokenTree → Item
  | .leaf token => .leaf token
  | .group false content => .brackets (array? (TokenTree.items content)) content
  | .group true content => .braces (inlineTable? (TokenTree.items content))

/-- A row of token trees as the reader of lines meets it. -/
def TokenTree.items : List TokenTree → List Item
  | [] => []
  | tree :: later => TokenTree.item tree :: TokenTree.items later

end

/-- A line with a meaning. -/
inductive Line where
  /-- The header of a table. -/
  | table (path : List String)
  /-- The header of one more table of many. -/
  | next (path : List String)
  /-- A key and its value. -/
  | assignment (path : List String) (value : Value)

/-- The header between square brackets. -/
def header? (content : List TokenTree) : Option Line :=
  match content with
  | [.group false inner] => (key? (TokenTree.items inner)).map Line.next
  | _ => (key? (TokenTree.items content)).map Line.table

/-- The meaning of a line that is not empty. -/
def line? (items : List Item) : Option Line :=
  match items with
  | [.brackets _ content] => header? content
  | _ => (assignment? items).map fun assignment => .assignment assignment.1 assignment.2

/-- A file that has been read up to some line. -/
structure Progress where
  /-- The keys so far. -/
  entries : Entries := []
  /-- The path of the last header. -/
  header : List String := []

/-- Does what a line says. -/
def Progress.follow (progress : Progress) : Line → Option Progress
  | .table path => do
      let key ← path.getLast?
      let entries ← progress.entries.descend (Entries.openTable key) path.dropLast
      return { entries, header := path }
  | .next path => do
      let key ← path.getLast?
      let entries ← progress.entries.descend (Entries.openNext key) path.dropLast
      return { entries, header := path }
  | .assignment path value => do
      let entries ← progress.entries.descend (Entries.set path value) progress.header
      return { progress with entries }

/-- Follows lines from a number on. -/
def followAll (number : Nat) (progress : Progress) : List (List Item) → Except Fault Progress
  | [] => .ok progress
  | items :: later =>
      let items := trim Item.isBlank items
      if items.isEmpty then followAll (number + 1) progress later
      else
        match line? items with
        | none => .error (.line number)
        | some line =>
            match progress.follow line with
            | none => .error (.duplicate number)
            | some progress => followAll (number + 1) progress later

/-- Reads a settings file as a table. -/
def read (text : String) : Except Fault (List (String × Value)) :=
  match tokens? text with
  | none => .error .tokens
  | some trees =>
      match followAll 1 {} (splitAt Item.isLineEnd (TokenTree.items trees)) with
      | .error fault => .error fault
      | .ok progress => .ok (finishEntries progress.entries)

end Toml
end Rulebook
