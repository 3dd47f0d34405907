import Rulebook.Notation.Literal
import Rulebook.Notation.Token
import Rulebook.Unicode.WhiteSpace

/-!
# From text to tokens

The scanner cuts a text into lexemes from left to right.  Comments and white space give none; a
comment that documents what follows gives the lexemes of an attribute.
-/

namespace Rulebook
namespace Notation

open Text (Found)

/-- White space between tokens, which includes the two direction marks. -/
def isBlank (character : Char) : Bool :=
  Unicode.isWhiteSpace character || character == '\u200e' || character == '\u200f'

/-- The number of characters up to the end of the line, without its carriage return. -/
def lineWidth : List Char → Nat
  | [] => 0
  | '\n' :: _ => 0
  | '\r' :: '\n' :: _ => 0
  | _ :: rest => lineWidth rest + 1

/-- The width of a block comment of which `depth` openings are still to be closed. -/
def blockWidth? (depth : Nat) : List Char → Option Nat
  | '/' :: '*' :: rest => (blockWidth? (depth + 1) rest).map (· + 2)
  | '*' :: '/' :: rest =>
      if depth ≤ 1 then some 2 else (blockWidth? (depth - 1) rest).map (· + 2)
  | _ :: rest => (blockWidth? depth rest).map (· + 1)
  | [] => none

/-- Does a carriage return stand without its line feed? -/
def hasBareReturn : List Char → Bool
  | [] => false
  | '\r' :: '\n' :: rest => hasBareReturn rest
  | '\r' :: _ => true
  | _ :: rest => hasBareReturn rest

/-- A comment of a kind and its text. -/
inductive Comment where
  /-- A remark, which gives no tokens. -/
  | remark
  /-- Documentation; `inner` if it belongs to what is around it. -/
  | documentation (inner : Bool) (text : List Char)

/-- The comment at the front of a text. -/
def comment? : List Char → Option (Found Comment)
  | '/' :: '/' :: '!' :: rest =>
      some ⟨.documentation true (rest.take (lineWidth rest)), lineWidth rest + 3⟩
  | '/' :: '/' :: '/' :: '/' :: rest => some ⟨.remark, lineWidth rest + 4⟩
  | '/' :: '/' :: '/' :: rest =>
      some ⟨.documentation false (rest.take (lineWidth rest)), lineWidth rest + 3⟩
  | '/' :: '/' :: rest => some ⟨.remark, lineWidth rest + 2⟩
  | '/' :: '*' :: '*' :: '/' :: _ => some ⟨.remark, 4⟩
  | '/' :: '*' :: rest =>
      match blockWidth? 1 rest with
      | none => none
      | some width =>
          let text := (rest.take (width - 2)).drop 1
          match rest with
          | '!' :: _ => some ⟨.documentation true text, width + 2⟩
          | '*' :: '*' :: _ => some ⟨.remark, width + 2⟩
          | '*' :: _ => some ⟨.documentation false text, width + 2⟩
          | _ => some ⟨.remark, width + 2⟩
  | _ => none

/-- The lexemes of a comment; documentation with a bare carriage return is refused. -/
def Comment.lexemes? (line : Nat) : Comment → Option (List Lexeme)
  | remark => some []
  | documentation inner text =>
      if hasBareReturn text then none
      else
        some (.leaf (.mark '#' false) :: (if inner then [.leaf (.mark '!' false)] else []) ++
          [.opening .bracket, .leaf (.identifier "doc" line), .leaf (.mark '=' false),
            .leaf (.text (String.ofList text)), .closing .bracket])

/-- Characters that are punctuation. -/
def punctuation : List Char :=
  "~!@#$%^&*-=+|;:,<.>/?'".toList

/-- Does a punctuation mark begin here?  The beginning of a comment is none. -/
def beginsMark : List Char → Bool
  | '/' :: '/' :: _ => false
  | '/' :: '*' :: _ => false
  | symbol :: _ => punctuation.contains symbol
  | [] => false

/-- Names that have no raw spelling. -/
def withoutRawSpelling : List String :=
  ["_", "super", "self", "Self", "crate"]

/-- The width of an identifier with its raw mark. -/
def anyIdentifierWidth? (text : List Char) : Option Nat :=
  match text with
  | 'r' :: '#' :: rest =>
      let width := identifierWidth rest
      if width = 0 ∨ withoutRawSpelling.contains (String.ofList (rest.take width)) then none
      else some (width + 2)
  | _ =>
      let width := identifierWidth text
      if width = 0 then none else some width

/-- Beginnings of literals that no identifier may have. -/
def literalBeginnings : List String :=
  ["r\"", "r#\"", "r##", "b\"", "b'", "br\"", "br#", "c\"", "cr\"", "cr#"]

/-- The identifier at the front of a text. -/
def identifier? (line : Nat) (text : List Char) : Option (Found Leaf) :=
  if literalBeginnings.any fun beginning => beginning.toList.isPrefixOf text then none
  else
    (anyIdentifierWidth? text).map fun width =>
      ⟨.identifier (String.ofList (text.take width)) line, width⟩

/-- The punctuation mark at the front of a text.  A quote is one only before an identifier that no
other quote closes. -/
def mark? (text : List Char) : Option (Found Leaf) :=
  match text with
  | [] => none
  | '\'' :: rest =>
      match anyIdentifierWidth? rest with
      | none => none
      | some width =>
          let following := (rest.drop width).head?
          if following = some '\'' ∨ (following = some '#' ∧ rest.take 2 ≠ ['r', '#']) then none
          else some ⟨.mark '\'' true, 1⟩
  | symbol :: rest =>
      if beginsMark text then some ⟨.mark symbol (beginsMark rest), 1⟩ else none

/-- A parenthesised comment that counts as a literal. -/
def faultLiteral : List Char :=
  "(/*ERROR*/)".toList

/-- The leaf at the front of a text: a literal, a mark or an identifier. -/
def leaf? (line : Nat) (text : List Char) : Option (Found Leaf) :=
  match textLiteral? text with
  | some found => some ⟨.text found.value, found.width⟩
  | none =>
      match otherLiteral? text with
      | some width => some ⟨.other, width⟩
      | none =>
          match character? text with
          | some found => some ⟨.character found.value, found.width⟩
          | none => (mark? text).or (identifier? line text)

/-- The lexemes at the front of a text. -/
def lexemes? (line : Nat) (text : List Char) : Option (Found (List Lexeme)) :=
  match text with
  | [] => none
  | initial :: _ =>
      if isBlank initial then some ⟨[], 1⟩
      else
        match comment? text with
        | some comment =>
            (comment.value.lexemes? line).map fun lexemes => ⟨lexemes, comment.width⟩
        | none =>
            if faultLiteral.isPrefixOf text then some ⟨[.leaf .other], faultLiteral.length⟩
            else if initial = '(' then some ⟨[.opening .parenthesis], 1⟩
            else if initial = '[' then some ⟨[.opening .bracket], 1⟩
            else if initial = '{' then some ⟨[.opening .brace], 1⟩
            else if initial = ')' then some ⟨[.closing .parenthesis], 1⟩
            else if initial = ']' then some ⟨[.closing .bracket], 1⟩
            else if initial = '}' then some ⟨[.closing .brace], 1⟩
            else (leaf? line text).map fun found => ⟨[.leaf found.value], found.width⟩

/-- The lexemes of a text that starts on `line`; `skip` characters belong to lexemes already found,
and `found` holds the lexemes so far, reversed. -/
def scanFrom (line : Nat) (found : List Lexeme) : (skip : Nat) → List Char → Option (List Lexeme)
  | _, [] => some found.reverse
  | skip + 1, character :: rest =>
      scanFrom (if character = '\n' then line + 1 else line) found skip rest
  | 0, character :: rest =>
      match lexemes? line (character :: rest) with
      | none => none
      | some next =>
          scanFrom (if character = '\n' then line + 1 else line)
            (next.value.reverse ++ found) (next.width - 1) rest

/-- The token trees of a text, if it has any reading.  A byte order mark at its front is no part
of it. -/
def tokens? (text : String) : Option (List TokenTree) :=
  let characters :=
    match text.toList with
    | '\ufeff' :: rest => rest
    | all => all
  (scanFrom 1 [] 0 characters).bind nest

end Notation
end Rulebook
