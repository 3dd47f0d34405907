import Rulebook.Grammar.Rule

/-!
# Valid grammars

Names are distinct within a namespace, every rule is listed with the rules of its kind, only lexer
rules are fragments, and operators have the operands that they need.  `Grammar.validate` names the
first violation, namespace by namespace and rule by rule.
-/

namespace Rulebook

/-- What can be wrong with a rule. -/
inductive ViolationCause where
  /-- An earlier rule of the namespace has the same name. -/
  | duplicate (kind : RuleKind) (name : String)
  /-- The rule is listed with the rules of another kind. -/
  | misfiled (name : String) (actual listed : RuleKind)
  /-- A parser rule is marked as a fragment. -/
  | parserFragment (name : String)
  /-- A node has too few or too many children. -/
  | arity (kind : NodeKind) (rule : String) (expected actual : Nat)
  deriving DecidableEq, Repr

namespace ViolationCause

/-- The wording of a violation. -/
def message : ViolationCause → String
  | duplicate kind name => "Duplicate " ++ kind.word ++ " rule '" ++ name ++ "'."
  | misfiled name actual listed =>
      "Rule '" ++ name ++ "' is a " ++ actual.word ++ " rule but was listed with the " ++
        listed.word ++ " rules."
  | parserFragment name => "Parser rule '" ++ name ++ "' cannot be a fragment."
  | arity kind rule expected actual =>
      kind.label ++ " node in rule '" ++ rule ++ "' expects " ++ toString expected ++
        " child(ren), but has " ++ toString actual ++ "."

end ViolationCause

/-- A violation with the line of the rule in which it was found. -/
structure Violation where
  /-- The line of the rule. -/
  line : Nat
  /-- What is wrong. -/
  cause : ViolationCause
  deriving DecidableEq, Repr

/-- The wording of a violation, after the line of the rule. -/
def Violation.message (violation : Violation) : String :=
  "line " ++ toString violation.line ++ ": " ++ violation.cause.message

/-- The number of children that a kind demands, if it demands one. -/
def NodeKind.arity? : NodeKind → Option Nat
  | .optional _ | .plus _ | .star _ | .negation => some 1
  | .range => some 2
  | kind => if kind.isLeaf then some 0 else none

/-- The arity violation at a node itself. -/
def Node.arityViolation? (rule : String) (node : Node) : Option ViolationCause :=
  match node.kind.arity? with
  | none => none
  | some expected =>
      if node.children.length = expected then none
      else some (.arity node.kind rule expected node.children.length)

/-- The first arity violation in a body. -/
def Node.firstArityViolation? (rule : String) (body : Node) : Option ViolationCause :=
  body.preorder.findSome? (Node.arityViolation? rule)

/-- The first violation of a rule that is listed with the rules of `kind` after rules named
`earlier`. -/
def Rule.violation? (kind : RuleKind) (earlier : List String) (rule : Rule) :
    Option ViolationCause :=
  if rule.name ∈ earlier then some (.duplicate kind rule.name)
  else if rule.kind ≠ kind then some (.misfiled rule.name rule.kind kind)
  else if rule.isFragment ∧ kind = .parser then some (.parserFragment rule.name)
  else rule.body.firstArityViolation? rule.name

/-- The first violation among rules listed with the rules of `kind`. -/
def firstViolation? (kind : RuleKind) : List String → List Rule → Option Violation
  | _, [] => none
  | earlier, rule :: later =>
      match rule.violation? kind earlier with
      | some cause => some ⟨rule.line, cause⟩
      | none => firstViolation? kind (rule.name :: earlier) later

/-- Accepts a valid grammar, and names the first violation of any other. -/
def Grammar.validate (grammar : Grammar) : Except Violation Unit :=
  match firstViolation? .parser [] grammar.parserRules with
  | some violation => .error violation
  | none =>
      match firstViolation? .lexer [] grammar.lexerRules with
      | some violation => .error violation
      | none => .ok ()

end Rulebook
