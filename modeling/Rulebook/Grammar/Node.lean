import Rulebook.Text.Escape
import Rulebook.Text.Quoted
import Rulebook.Unicode.Uppercase

/-!
# Nodes of a rule body

A rule body is a tree.  Every kind of node may carry any number of children here; which numbers are
meaningful is the business of `Rulebook.Grammar.Validity`.
-/

namespace Rulebook

/-- The namespace in which a rule lives. -/
inductive RuleKind where
  /-- Rules over characters, named with an upper-case initial. -/
  | lexer
  /-- Rules over tokens. -/
  | parser
  deriving DecidableEq, Repr

namespace RuleKind

/-- The namespace to which a name belongs by its first character. -/
def ofName (name : String) : RuleKind :=
  match name.toList with
  | [] => parser
  | initial :: _ => if Unicode.isUppercase initial then lexer else parser

/-- The word for a namespace. -/
def word : RuleKind → String
  | lexer => "lexer"
  | parser => "parser"

end RuleKind

/-- A leaf that matches a token: by the token's name or by a spelling. -/
inductive Terminal where
  /-- A reference to a lexer rule. -/
  | token (name : String)
  /-- The matched text itself. -/
  | literal (value : String)
  deriving DecidableEq, Repr

namespace Terminal

/-- The name or the spelling, without quotes. -/
def text : Terminal → String
  | token name => name
  | literal value => value

/-- The written form: a name as it is, a spelling between quotes. -/
def written : Terminal → String
  | token name => name
  | literal value => Text.quotedLiteral value

end Terminal

/-- What a node of a rule body stands for. -/
inductive NodeKind where
  /-- Juxtaposed elements. -/
  | sequence
  /-- One alternative, whose children are matched in order. -/
  | alternative
  /-- A choice between alternatives. -/
  | block
  /-- A choice between single terminals, as found under a negation. -/
  | set
  /-- At most one occurrence of the child. -/
  | optional (greedy : Bool)
  /-- At least one occurrence of the child. -/
  | plus (greedy : Bool)
  /-- Any number of occurrences of the child. -/
  | star (greedy : Bool)
  /-- Anything but the child. -/
  | negation
  /-- The characters between two ends. -/
  | range
  /-- A token or a spelling. -/
  | terminal (shown : Terminal)
  /-- A reference to a parser rule. -/
  | ruleRef (name : String)
  /-- A set of characters, given by the text between its brackets. -/
  | charSet (body : String)
  /-- A semantic condition, which renders to nothing. -/
  | predicate
  /-- The place of an embedded action, which renders to nothing. -/
  | placeholder
  deriving DecidableEq, Repr

namespace NodeKind

/-- Kinds that stand at the tips of a body. -/
def isLeaf : NodeKind → Bool
  | terminal _ | ruleRef _ | charSet _ | predicate | placeholder => true
  | _ => false

/-- Kinds that bind to operands. -/
def isOperator : NodeKind → Bool
  | optional _ | plus _ | star _ | negation | range => true
  | _ => false

/-- Kinds that offer their children as a choice. -/
def isChoice : NodeKind → Bool
  | block | set => true
  | _ => false

/-- Kinds that can be put in parentheses. -/
def isGroup : NodeKind → Bool
  | block | set | alternative => true
  | _ => false

/-- The name of a quantified kind with its greediness, as messages show it. -/
def quantifierLabel (name : String) (greedy : Bool) : String :=
  name ++ " \x7b greedy: " ++ (if greedy then "true" else "false") ++ " \x7d"

/-- The kind as messages show it. -/
def label : NodeKind → String
  | sequence => "Sequence"
  | alternative => "Alt"
  | block => "Block"
  | set => "Set"
  | optional greedy => quantifierLabel "Optional" greedy
  | plus greedy => quantifierLabel "Plus" greedy
  | star greedy => quantifierLabel "Star" greedy
  | negation => "Not"
  | range => "Range"
  | terminal (.token name) => "Terminal(Token(" ++ Text.quoted name ++ "))"
  | terminal (.literal value) => "Terminal(Literal(" ++ Text.quoted value ++ "))"
  | ruleRef name => "RuleRef(" ++ Text.quoted name ++ ")"
  | charSet body => "CharSet(" ++ Text.quoted body ++ ")"
  | predicate => "Predicate"
  | placeholder => "RuleRoot"

end NodeKind

/-- A node of a rule body with its children in order. -/
inductive Node where
  /-- The node of a kind over children. -/
  | mk (kind : NodeKind) (children : List Node)

namespace Node

/-- What the node stands for. -/
def kind : Node → NodeKind
  | mk kind _ => kind

/-- The children, in order. -/
def children : Node → List Node
  | mk _ children => children

/-- A node without children. -/
def leaf (kind : NodeKind) : Node :=
  mk kind []

/-- A reference to a lexer rule. -/
def token (name : String) : Node :=
  leaf (.terminal (.token name))

/-- A spelling. -/
def literal (value : String) : Node :=
  leaf (.terminal (.literal value))

/-- A reference to a rule, whose namespace the name decides. -/
def reference (name : String) : Node :=
  match RuleKind.ofName name with
  | .lexer => token name
  | .parser => leaf (.ruleRef name)

/-- One alternative over its elements. -/
def alternative (elements : List Node) : Node :=
  mk .alternative elements

/-- A choice between alternatives. -/
def block (alternatives : List Node) : Node :=
  mk .block alternatives

/-- The name to which a node refers, if it is a reference. -/
def referencedName? (node : Node) : Option String :=
  match node.kind with
  | .terminal (.token name) => some name
  | .ruleRef name => some name
  | _ => none

/-- The spelling that a node matches, if it is a literal. -/
def spelling? (node : Node) : Option String :=
  match node.kind with
  | .terminal (.literal value) => some value
  | _ => none

mutual

/-- Equality of nodes is decided kind by kind and child by child. -/
def decideEq : (left right : Node) → Decidable (left = right)
  | mk leftKind leftChildren, mk rightKind rightChildren =>
      match decEq leftKind rightKind, decideEqAll leftChildren rightChildren with
      | isTrue kinds, isTrue children => isTrue (by rw [kinds, children])
      | isFalse differ, _ => isFalse fun same => differ (Node.mk.inj same).1
      | _, isFalse differ => isFalse fun same => differ (Node.mk.inj same).2

/-- Equality of lists of nodes is decided node by node. -/
def decideEqAll : (left right : List Node) → Decidable (left = right)
  | [], [] => isTrue rfl
  | [], _ :: _ => isFalse nofun
  | _ :: _, [] => isFalse nofun
  | left :: lefts, right :: rights =>
      match decideEq left right, decideEqAll lefts rights with
      | isTrue heads, isTrue tails => isTrue (by rw [heads, tails])
      | isFalse differ, _ => isFalse fun same => differ (List.cons.inj same).1
      | _, isFalse differ => isFalse fun same => differ (List.cons.inj same).2

end

instance : DecidableEq Node :=
  decideEq

mutual

/-- A node and its descendants, each before its own children, from left to right. -/
def preorder : Node → List Node
  | mk kind children => mk kind children :: preorderAll children

/-- The nodes of a row of trees, each before its own children, from left to right. -/
def preorderAll : List Node → List Node
  | [] => []
  | node :: later => preorder node ++ preorderAll later

end

/-- The distinct spellings in a body, by first appearance. -/
def spellings (body : Node) : List String :=
  (body.preorder.filterMap spelling?).eraseDups

/-- The distinct names to which a body refers, by first appearance. -/
def referencedNames (body : Node) : List String :=
  (body.preorder.filterMap referencedName?).eraseDups

/-- The number of top-level alternatives of a rule body. -/
def alternativeCount (body : Node) : Nat :=
  if body.kind.isChoice then body.children.length else 1

end Node
end Rulebook
