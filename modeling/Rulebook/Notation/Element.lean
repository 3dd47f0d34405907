import Rulebook.Grammar.Node
import Rulebook.Notation.Fault
import Rulebook.Notation.Token

/-!
# Elements of an alternative

Groups are read from the inside out: when the reader reaches a group, the alternatives between its
brackets have been read, and a fault found there is reported at that moment.  An element is an atom,
possibly labelled, a range of two atoms or a negation, followed by any number of quantifiers.
-/

namespace Rulebook
namespace Notation

/-- A token as the reader of elements meets it. -/
inductive Item where
  /-- A token that holds no other tokens. -/
  | leaf (leaf : Leaf)
  /-- The alternatives between round brackets. -/
  | choice (alternatives : Except Fault (List Node))
  /-- The text of a character set between square brackets. -/
  | set (body : Except Fault String)
  /-- The tokens between curly brackets. -/
  | braces (content : List TokenTree)

/-- What is left to read after a value. -/
abbrev Reading (Value : Type) : Type :=
  Except Fault (Value × List Item)

/-- The fault of a missing part before some tokens. -/
def missingBefore (part : Part) (items : List Item) : Fault :=
  .missing part items.isEmpty

/-- Does a punctuation character stand at the front? -/
def startsWithMark (symbol : Char) : List Item → Bool
  | .leaf (.mark found _) :: _ => found == symbol
  | _ => false

/-- Do two joint punctuation characters stand at the front? -/
def startsWithPair (first second : Char) : List Item → Bool
  | .leaf (.mark found joint) :: rest => found == first && joint && startsWithMark second rest
  | _ => false

/-- The node before a quantifier: a choice stands for itself, other nodes are put into one. -/
def operand (node : Node) : Node :=
  if node.kind = .block then node else Node.block [Node.alternative [node]]

/-- May the node be a member of a negated set? -/
def isSetMember (node : Node) : Bool :=
  match node.kind with
  | .terminal _ | .charSet _ => true
  | _ => false

/-- The only member of an alternative that can go into a negated set. -/
def setMember? (alternative : Node) : Option Node :=
  match alternative.children with
  | [member] => if isSetMember member then some member else none
  | _ => none

/-- The members of a choice of which every alternative is one member. -/
def setMembers? : List Node → Option (List Node)
  | [] => some []
  | alternative :: later =>
      match setMember? alternative, setMembers? later with
      | some member, some members => some (member :: members)
      | _, _ => none

/-- The node behind a negation sign: a choice between single members becomes a set. -/
def negated (node : Node) : Node :=
  if node.kind = .block then
    match setMembers? node.children with
    | some members => .mk .set members
    | none => node
  else node

/-- The tokens after a label, or all tokens if there is none. -/
def skipLabel : List Item → List Item
  | .leaf (.identifier name line) :: rest =>
      if startsWithPair '+' '=' rest then rest.drop 2
      else if startsWithMark '=' rest then rest.drop 1
      else .leaf (.identifier name line) :: rest
  | items => items

/-- Reads an atom without its label. -/
def readBareAtom : List Item → Reading Node
  | .leaf (.text value) :: rest => .ok (Node.literal value, rest)
  | .leaf (.character value) :: rest => .ok (Node.literal value.toString, rest)
  | .leaf (.identifier name _) :: rest => .ok (Node.reference name, rest)
  | .set (.ok body) :: rest => .ok (Node.leaf (.charSet body), rest)
  | .set (.error fault) :: _ => .error fault
  | .choice (.ok alternatives) :: rest => .ok (Node.block alternatives, rest)
  | .choice (.error fault) :: _ => .error fault
  | .braces _ :: rest =>
      if startsWithMark '?' rest then .ok (Node.leaf .predicate, rest.drop 1)
      else .ok (Node.leaf .placeholder, rest)
  | items => .error (missingBefore .element items)

/-- Reads an atom; a label in front of it says nothing about what it matches. -/
def readAtom (items : List Item) : Reading Node :=
  readBareAtom (skipLabel items)

/-- Reads an atom or a range between two. -/
def readRange (items : List Item) : Reading Node :=
  match readAtom items with
  | .error fault => .error fault
  | .ok (left, rest) =>
      if startsWithPair '.' '.' rest then
        match readAtom (rest.drop 2) with
        | .error fault => .error fault
        | .ok (right, rest) => .ok (.mk .range [left, right], rest)
      else .ok (left, rest)

/-- Puts the quantifiers at the front of the tokens around a node; a question mark behind one makes
it reluctant. -/
def quantify (node : Node) : List Item → Node × List Item
  | .leaf (.mark symbol joint) :: rest =>
      let next? : Option (Bool → NodeKind) :=
        if symbol = '?' then some .optional
        else if symbol = '*' then some .star
        else if symbol = '+' ∧ ¬ (joint ∧ startsWithMark '=' rest) then some .plus
        else none
      match next?, rest with
      | none, _ => (node, .leaf (.mark symbol joint) :: rest)
      | some kind, .leaf (.mark following behind) :: later =>
          if following = '?' then quantify (.mk (kind false) [operand node]) later
          else
            quantify (.mk (kind true) [operand node]) (.leaf (.mark following behind) :: later)
      | some kind, rest => (.mk (kind true) [operand node], rest)
  | items => (node, items)

/-- Reads an element. -/
def readElement (items : List Item) : Reading Node :=
  let negative := startsWithMark '~' items
  match readRange (if negative then items.drop 1 else items) with
  | .error fault => .error fault
  | .ok (node, rest) =>
      .ok (quantify (if negative then .mk .negation [negated node] else node) rest)

/-! ### What is left to read

Every reader takes tokens from the front, so what it leaves is an end of what was there.
-/

/-- What is left of some tokens is an end of them, and at least one token is gone. -/
structure Shortens (items rest : List Item) : Prop where
  /-- The tokens that are left stand at the end. -/
  suffix : rest <:+ items
  /-- They are fewer than before. -/
  length_lt : rest.length < items.length

theorem Shortens.of_tail {item : Item} {items rest : List Item} (suffix : rest <:+ items) :
    Shortens (item :: items) rest :=
  ⟨suffix.trans (List.suffix_cons item items), Nat.lt_succ_of_le suffix.length_le⟩

theorem Shortens.of_suffix {items middle rest : List Item} (taken : Shortens middle rest)
    (suffix : middle <:+ items) : Shortens items rest :=
  ⟨taken.suffix.trans suffix, Nat.lt_of_lt_of_le taken.length_lt suffix.length_le⟩

theorem Shortens.trans_suffix {items middle rest : List Item} (taken : Shortens items middle)
    (suffix : rest <:+ middle) : Shortens items rest :=
  ⟨suffix.trans taken.suffix, Nat.lt_of_le_of_lt suffix.length_le taken.length_lt⟩

theorem ite_drop_suffix (drops : Prop) [Decidable drops] (count : Nat) (items : List Item) :
    (if drops then items.drop count else items) <:+ items := by
  split
  · exact List.drop_suffix count items
  · exact List.suffix_refl items

theorem skipLabel_suffix (items : List Item) : skipLabel items <:+ items := by
  fun_cases skipLabel items with
  | case1 | case2 => exact (List.drop_suffix _ _).trans (List.suffix_cons _ _)
  | case3 | case4 => exact List.suffix_refl _

theorem shortens_of_readBareAtom {items rest : List Item} {node : Node}
    (read : readBareAtom items = .ok (node, rest)) : Shortens items rest := by
  revert read
  fun_cases readBareAtom items <;> intro read <;>
    simp only [Except.ok.injEq, Prod.mk.injEq, reduceCtorEq] at read
  case case8 after _ => exact read.2 ▸ .of_tail (List.drop_suffix 1 after)
  all_goals exact read.2 ▸ .of_tail (List.suffix_refl _)

theorem shortens_of_readAtom {items rest : List Item} {node : Node}
    (read : readAtom items = .ok (node, rest)) : Shortens items rest :=
  (shortens_of_readBareAtom read).of_suffix (skipLabel_suffix items)

/-- A range is two atoms with two joint dots between them. -/
theorem readRange_eq_ok {items rest : List Item} {node : Node} :
    readRange items = .ok (node, rest) ↔
      ∃ left middle, readAtom items = .ok (left, middle) ∧
        (startsWithPair '.' '.' middle = false ∧ node = left ∧ rest = middle ∨
          startsWithPair '.' '.' middle = true ∧
            ∃ right, readAtom (middle.drop 2) = .ok (right, rest) ∧
              node = .mk .range [left, right]) := by
  fun_cases readRange items with
  | case1 fault first => simp [first]
  | case2 left middle first dots fault second => grind
  | case3 left middle first dots right after second => grind
  | case4 left middle first single => grind

theorem shortens_of_readRange {items rest : List Item} {node : Node}
    (read : readRange items = .ok (node, rest)) : Shortens items rest := by
  obtain ⟨left, middle, first, ⟨_, _, rfl⟩ | ⟨_, right, second, _⟩⟩ := readRange_eq_ok.mp read
  · exact shortens_of_readAtom first
  · have behind : rest <:+ middle.drop 2 := (shortens_of_readAtom second).suffix
    exact (shortens_of_readAtom first).trans_suffix (behind.trans (List.drop_suffix 2 middle))

theorem quantify_suffix (node : Node) (items : List Item) : (quantify node items).2 <:+ items := by
  fun_induction quantify node items with
  | case1 => exact List.suffix_refl _
  | case2 _ _ _ _ _ _ _ _ induction =>
    exact induction.trans ((List.suffix_cons _ _).trans (List.suffix_cons _ _))
  | case3 _ _ _ _ _ _ _ _ _ _ induction => exact induction.trans (List.suffix_cons _ _)
  | case4 => exact List.suffix_cons _ _
  | case5 => exact List.suffix_refl _

/-- Quantifiers stand behind a range or an atom, a negation sign before it. -/
theorem readElement_eq_ok {items rest : List Item} {node : Node} :
    readElement items = .ok (node, rest) ↔
      ∃ inner middle,
        readRange (if startsWithMark '~' items then items.drop 1 else items) =
            .ok (inner, middle) ∧
          quantify (if startsWithMark '~' items then .mk .negation [negated inner] else inner)
            middle = (node, rest) := by
  rw [readElement]
  cases ranged : readRange (if startsWithMark '~' items then items.drop 1 else items) with
  | error => simp
  | ok found =>
    obtain ⟨inner, middle⟩ := found
    simp only [Except.ok.injEq, Prod.mk.injEq]
    constructor
    · exact fun quantified => ⟨inner, middle, ⟨rfl, rfl⟩, quantified⟩
    · rintro ⟨_, _, ⟨rfl, rfl⟩, quantified⟩
      exact quantified

theorem shortens_of_readElement {items rest : List Item} {node : Node}
    (read : readElement items = .ok (node, rest)) : Shortens items rest := by
  obtain ⟨inner, middle, ranged, quantified⟩ := readElement_eq_ok.mp read
  have behind := quantify_suffix
    (if startsWithMark '~' items then .mk .negation [negated inner] else inner) middle
  rw [quantified] at behind
  exact ((shortens_of_readRange ranged).of_suffix (ite_drop_suffix _ 1 items)).trans_suffix behind

theorem length_lt_of_readElement {items rest : List Item} {node : Node}
    (read : readElement items = .ok (node, rest)) : rest.length < items.length :=
  (shortens_of_readElement read).length_lt

end Notation
end Rulebook
