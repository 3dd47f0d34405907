import Rulebook.Text.Found

/-!
# Tokens of a settings file

Brackets are matched before lines are looked at, so that what stands between two brackets may run
over several lines.
-/

namespace Rulebook
namespace Toml

open Text (Found hexValue? isScalar)

/-- A token that holds no other tokens. -/
inductive Leaf where
  /-- Characters without a meaning of their own. -/
  | word (text : String)
  /-- Text between quotes; `isKey` if its quotes can enclose a key. -/
  | string (value : String) (isKey : Bool)
  /-- Spaces and tabs. -/
  | blank (text : String)
  /-- The end of a line. -/
  | lineEnd
  /-- A full stop, a comma or an equals sign. -/
  | mark (symbol : Char)
  deriving DecidableEq, Repr

/-- A leaf, or what stands between two brackets; curly ones if `isTable`. -/
inductive TokenTree where
  /-- A token that holds no other tokens. -/
  | leaf (leaf : Leaf)
  /-- The tokens between two brackets. -/
  | group (isTable : Bool) (content : List TokenTree)

/-- A token of the flat text, where brackets are not yet matched. -/
inductive Lexeme where
  /-- A token that holds no other tokens. -/
  | leaf (leaf : Leaf)
  /-- An opening bracket. -/
  | opening (isTable : Bool)
  /-- A closing bracket. -/
  | closing (isTable : Bool)
  deriving DecidableEq, Repr

/-- May the character stand for itself in text or in a comment? -/
def isPlain (character : Char) : Bool :=
  character == '\t' || (character.toNat ≥ 0x20 && character.toNat ≠ 0x7F)

/-- The number that hexadecimal digits denote. -/
def hexNumber? : (value : Nat) → List Char → Option Nat
  | value, [] => some value
  | value, character :: rest =>
      match hexValue? character with
      | some digit => hexNumber? (value * 16 + digit) rest
      | none => none

/-- The character that a number of hexadecimal digits denotes, behind a backslash and a letter. -/
def numbered? (count : Nat) (text : List Char) : Option (Found (List Char)) :=
  if text.length < count then none
  else
    match hexNumber? 0 (text.take count) with
    | some code => if isScalar code then some ⟨[Char.ofNat code], count + 2⟩ else none
    | none => none

/-- The character that a letter behind a backslash stands for. -/
def letterEscape? (letter : Char) : Option Char :=
  if letter = 'b' then some '\x08'
  else if letter = 'e' then some '\x1b'
  else if letter = 't' then some '\t'
  else if letter = 'n' then some '\n'
  else if letter = 'f' then some '\x0c'
  else if letter = 'r' then some '\r'
  else if letter = '"' ∨ letter = '\\' then some letter
  else none

/-- What a backslash and the characters behind it stand for. -/
def escape? : List Char → Option (Found (List Char))
  | '\\' :: 'x' :: rest => numbered? 2 rest
  | '\\' :: 'u' :: rest => numbered? 4 rest
  | '\\' :: 'U' :: rest => numbered? 8 rest
  | '\\' :: letter :: _ => (letterEscape? letter).map fun character => ⟨[character], 2⟩
  | _ => none

/-- A unit of text that does not run over lines. -/
def lineUnit? (escapes : Bool) : List Char → Option (Found (List Char))
  | [] => none
  | character :: rest =>
      if escapes ∧ character = '\\' then escape? (character :: rest)
      else if isPlain character then some ⟨[character], 1⟩
      else none

/-- The blanks and line ends that a backslash at the end of a line skips, if a line ends there. -/
def skippedLines? (ended : Bool) : List Char → Option Nat
  | '\r' :: '\n' :: rest => (skippedLines? true rest).map (· + 2)
  | '\n' :: rest => (skippedLines? true rest).map (· + 1)
  | ' ' :: rest | '\t' :: rest => (skippedLines? ended rest).map (· + 1)
  | _ => if ended then some 0 else none

/-- A unit of text that may run over lines. -/
def blockUnit? (escapes : Bool) : List Char → Option (Found (List Char))
  | '\n' :: _ => some ⟨['\n'], 1⟩
  | '\r' :: '\n' :: _ => some ⟨['\r', '\n'], 2⟩
  | '\\' :: rest =>
      if escapes then
        match skippedLines? false rest with
        | some skipped => some ⟨[], skipped + 1⟩
        | none => escape? ('\\' :: rest)
      else some ⟨['\\'], 1⟩
  | text => lineUnit? escapes text

/-- The quote that ends text on one line. -/
def lineEnding? (quote : Char) : List Char → Option (Found (List Char))
  | character :: _ => if character = quote then some ⟨[], 1⟩ else none
  | [] => none

/-- The quotes that end text over several lines; up to two before them belong to the text. -/
def blockEnding? (quote : Char) (text : List Char) : Option (Found (List Char)) :=
  let count := min 5 (text.takeWhile (· == quote)).length
  if count < 3 then none else some ⟨List.replicate (count - 3) quote, count⟩

/-- The width of a line end at the front of a text. -/
def lineEndWidth : List Char → Nat
  | '\n' :: _ => 1
  | '\r' :: '\n' :: _ => 2
  | _ => 0

/-- Text between quotes of a kind, the opening ones included. -/
def quoted? (quote : Char) (escapes : Bool) (text : List Char) : Option (Found Lexeme) :=
  if (text.takeWhile (· == quote)).length ≥ 3 then
    let opening := 3 + lineEndWidth (text.drop 3)
    (Text.readUnits (blockEnding? quote) (blockUnit? escapes) 0 (text.drop opening)).map
      fun found => ⟨.leaf (.string (String.ofList found.value) false), found.width + opening⟩
  else
    (Text.readUnits (lineEnding? quote) (lineUnit? escapes) 0 (text.drop 1)).map
      fun found => ⟨.leaf (.string (String.ofList found.value) true), found.width + 1⟩

/-- Spaces and tabs. -/
def isBlank (character : Char) : Bool :=
  character == ' ' || character == '\t'

/-- Characters that end a word. -/
def endsWord (character : Char) : Bool :=
  isBlank character || character == '\n' || character == '\r' ||
    "#=.,[]{}\"'".toList.contains character

/-- A comment up to the end of its line. -/
def comment? (text : List Char) : Option (Found (List Lexeme)) :=
  let body := text.takeWhile isPlain
  match text.drop body.length with
  | [] => some ⟨[], body.length⟩
  | rest => if 0 < lineEndWidth rest then some ⟨[], body.length⟩ else none

/-- The lexeme of a bracket or of a mark. -/
def signLexeme? (character : Char) : Option Lexeme :=
  if character = '[' then some (.opening false)
  else if character = ']' then some (.closing false)
  else if character = '{' then some (.opening true)
  else if character = '}' then some (.closing true)
  else if character = '.' ∨ character = ',' ∨ character = '=' then some (.leaf (.mark character))
  else none

/-- The lexemes at the front of a text. -/
def lexemes? (text : List Char) : Option (Found (List Lexeme)) :=
  match text with
  | [] => none
  | initial :: rest =>
      if initial = '#' then (comment? rest).map (·.widen 1)
      else if 0 < lineEndWidth text then some ⟨[.leaf .lineEnd], lineEndWidth text⟩
      else if isBlank initial then
        let blanks := text.takeWhile isBlank
        some ⟨[.leaf (.blank (String.ofList blanks))], blanks.length⟩
      else if initial = '"' then (quoted? '"' true text).map (·.map fun lexeme => [lexeme])
      else if initial = '\'' then (quoted? '\'' false text).map (·.map fun lexeme => [lexeme])
      else
        match signLexeme? initial with
        | some lexeme => some ⟨[lexeme], 1⟩
        | none =>
            let word := text.takeWhile fun character => !endsWord character
            if word.isEmpty then none
            else some ⟨[.leaf (.word (String.ofList word))], word.length⟩

/-- The lexemes of a text; `skip` characters belong to lexemes already found, and `found` holds the
lexemes so far, reversed. -/
def scanFrom (found : List Lexeme) : (skip : Nat) → List Char → Option (List Lexeme)
  | _, [] => some found.reverse
  | skip + 1, _ :: rest => scanFrom found skip rest
  | 0, character :: rest =>
      match lexemes? (character :: rest) with
      | none => none
      | some next => scanFrom (next.value.reverse ++ found) (next.width - 1) rest

/-- The number of brackets that may be open at once. -/
def maxDepth : Nat :=
  80

/-- Matches brackets.  `outer` holds the open brackets with what stood before each, innermost first
and reversed; `before` holds the trees of the innermost bracket so far, reversed. -/
def nestFrom (outer : List (Bool × List TokenTree)) (before : List TokenTree) :
    List Lexeme → Option (List TokenTree)
  | [] => if outer.isEmpty then some before.reverse else none
  | .leaf leaf :: later => nestFrom outer (.leaf leaf :: before) later
  | .opening isTable :: later =>
      if outer.length < maxDepth then nestFrom ((isTable, before) :: outer) [] later else none
  | .closing isTable :: later =>
      match outer with
      | [] => none
      | (opened, around) :: further =>
          if opened = isTable then
            nestFrom further (.group isTable before.reverse :: around) later
          else none

/-- The token trees of a text, if it has any reading.  A byte order mark at its front is no part
of it. -/
def tokens? (text : String) : Option (List TokenTree) :=
  let characters :=
    match text.toList with
    | '\ufeff' :: rest => rest
    | all => all
  (scanFrom [] 0 characters).bind (nestFrom [] [])

end Toml
end Rulebook
