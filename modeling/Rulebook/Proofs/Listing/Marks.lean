import Rulebook.Proofs.Notation.Image

/-!
# Marks of a listing

What the listing shows of a body is a row of marks: signs, leaves and groups.  The row tells which
signs stand next to which operand, but not to which operator a sign belongs.
-/

namespace Rulebook

/-- What the listing shows at one place. -/
inductive Mark where
  /-- The sign of an operator. -/
  | sign (symbol : Char)
  /-- A name. -/
  | name (letters : List Char)
  /-- A spelling. -/
  | literal (value : List Char)
  /-- A set of characters. -/
  | charSet (body : List Char)
  /-- Elements in parentheses. -/
  | sequence (elements : List (List Mark))
  /-- Alternatives in parentheses. -/
  | choice (alternatives : List (List Mark))

namespace NodeKind

/-- The sign that a quantifier puts behind its operand. -/
def quantifierSign : NodeKind → Char
  | plus _ => '+'
  | star _ => '*'
  | _ => '?'

theorem quantifierSign_mem (kind : NodeKind) :
    kind.quantifierSign ∈ ['?', '+', '*', '~', '.'] := by
  cases kind <;> simp [quantifierSign]

end NodeKind

namespace Mark

/-- Elements one after another; a single element stands for itself. -/
def inOrder : List (List Mark) → List Mark
  | [] => []
  | [row] => row
  | rows => [sequence rows]

/-- A choice between alternatives; a single alternative stands for itself. -/
def oneOf : List (List Mark) → List Mark
  | [] => []
  | [row] => row
  | rows => [choice rows]

@[simp]
theorem inOrder_nil : inOrder [] = [] := rfl

@[simp]
theorem inOrder_singleton (row : List Mark) : inOrder [row] = row := rfl

@[simp]
theorem oneOf_singleton (row : List Mark) : oneOf [row] = row := rfl

/-- The signs of a quantifier. -/
def quantifier (symbol : Char) (greedy : Bool) : List Mark :=
  if greedy then [sign symbol] else [sign symbol, sign '?']

/-- The mark of a name, a spelling or a set. -/
def ofTerminal : Terminal → Mark
  | .token label => name label.toList
  | .literal value => literal value.toList

end Mark

/-- The marks of a node whose children show these rows. -/
def NodeKind.marks (rows : List (List Mark)) : NodeKind → List Mark
  | .sequence | .alternative => Mark.inOrder rows
  | .block | .set => Mark.oneOf rows
  | .optional greedy => rows.flatten ++ Mark.quantifier '?' greedy
  | .plus greedy => rows.flatten ++ Mark.quantifier '+' greedy
  | .star greedy => rows.flatten ++ Mark.quantifier '*' greedy
  | .negation => .sign '~' :: rows.flatten
  | .range => [Mark.sign '.', Mark.sign '.'].intercalate rows
  | .terminal shown => [Mark.ofTerminal shown]
  | .ruleRef name => [.name name.toList]
  | .charSet body => [.charSet body.toList]
  | .predicate | .placeholder => []

namespace Node

mutual

/-- The marks that show a node. -/
def marks : Node → List Mark
  | .mk kind children => kind.marks (marksAll children)

/-- The marks that show each of a row of nodes. -/
def marksAll : List Node → List (List Mark)
  | [] => []
  | node :: later => marks node :: marksAll later

end

theorem marksAll_eq (nodes : List Node) : marksAll nodes = nodes.map marks := by
  induction nodes with
  | nil => rfl
  | cons node nodes induction => rw [marksAll, induction, List.map_cons]

theorem marks_mk (kind : NodeKind) (children : List Node) :
    (mk kind children).marks = kind.marks (children.map marks) := by
  rw [marks, marksAll_eq]

theorem marks_alternative (nodes : List Node) :
    (alternative nodes).marks = Mark.inOrder (nodes.map marks) :=
  marks_mk .alternative nodes

theorem marks_choice {kind : NodeKind} (chooses : kind.isChoice = true) (nodes : List Node) :
    (mk kind nodes).marks = Mark.oneOf (nodes.map marks) := by
  rw [marks_mk]
  cases kind with
  | block | set => rfl
  | _ => simp [NodeKind.isChoice] at chooses

theorem marks_literal (value : String) : (literal value).marks = [.literal value.toList] :=
  marks_mk (.terminal (.literal value)) []

theorem marks_charSet (body : String) :
    (leaf (.charSet body)).marks = [.charSet body.toList] :=
  marks_mk (.charSet body) []

theorem marks_reference (name : String) : (reference name).marks = [.name name.toList] := by
  rw [reference]
  cases RuleKind.ofName name with
  | parser => exact marks_mk (.ruleRef name) []
  | lexer => exact marks_mk (.terminal (.token name)) []

theorem marks_quantified {quantifier : NodeKind} (quantifies : quantifier.isQuantifier = true)
    (operand : Node) : (mk quantifier [operand]).marks =
      operand.marks ++ Mark.quantifier quantifier.quantifierSign quantifier.isGreedy := by
  rw [marks_mk]
  cases quantifier with
  | optional | plus | star =>
      simp [NodeKind.marks, NodeKind.quantifierSign, NodeKind.isGreedy]
  | _ => simp [NodeKind.isQuantifier] at quantifies

theorem marks_negation (operand : Node) :
    (mk .negation [operand]).marks = .sign '~' :: operand.marks := by
  simp [marks_mk, NodeKind.marks]

theorem marks_range (left right : Node) :
    (mk .range [left, right]).marks =
      [Mark.sign '.', Mark.sign '.'].intercalate [left.marks, right.marks] :=
  marks_mk .range [left, right]

end Node

end Rulebook
