import Rulebook.Settings

/-!
# Inlined tokens

A token whose rule is one spelling is shown as that spelling, and its rule is then not listed.  The
names of the rules so absorbed are kept from one rule of the run to the next.
-/

namespace Rulebook

/-- Kinds that count as content when a level of a body is measured. -/
def NodeKind.isSignificant : NodeKind → Bool
  | .terminal _ | .charSet _ | .ruleRef _ | .block | .alternative | .set
  | .optional _ | .plus _ | .star _ => true
  | _ => false

/-- Does the level hold more than one significant node? -/
def Node.crowds (children : List Node) : Bool :=
  (children.filter fun child => child.kind.isSignificant).length > 1

mutual

/-- Does every level hold at most one significant node and the first of each lead to a literal? -/
def Node.isSimple : Node → Bool
  | .mk kind children =>
      if kind = .negation ∨ kind = .range then false
      else if Node.crowds children then false
      else Node.leadsToLiteral kind children

/-- Is the first of the children simple, or the childless node a literal? -/
def Node.leadsToLiteral (kind : NodeKind) : List Node → Bool
  | [] =>
      match kind with
      | .terminal (.literal _) => true
      | _ => false
  | first :: _ => Node.isSimple first

end

/-- The one spelling of a lexer rule that consists of it. -/
def Rule.soleSpelling? (rule : Rule) : Option String :=
  if rule.body.isSimple then
    match rule.body.spellings with
    | [spelling] => some spelling
    | _ => none
  else none

/-- The spelling that is shown in place of a token. -/
def Grammar.inlineSpelling? (grammar : Grammar) (settings : Settings) (token : String) :
    Option String :=
  if settings.isStopTerminal token then none
  else (grammar.rule? .lexer token).bind Rule.soleSpelling?

/-- The lexer rules absorbed so far. -/
structure Inlining where
  /-- Their names, by first use. -/
  absorbed : List String := []
  deriving DecidableEq, Repr

namespace Inlining

/-- Has the rule been absorbed? -/
def absorbs (inlining : Inlining) (name : String) : Bool :=
  inlining.absorbed.contains name

/-- The record with one more absorbed rule. -/
def absorb (inlining : Inlining) (name : String) : Inlining :=
  if inlining.absorbs name then inlining else ⟨inlining.absorbed ++ [name]⟩

/-- The spelling that is shown in place of a token, which absorbs the token's rule. -/
def resolve (grammar : Grammar) (settings : Settings) (token : String) :
    StateM Inlining (Option String) := do
  match grammar.inlineSpelling? settings token with
  | some spelling =>
      modify fun inlining => inlining.absorb token
      return some spelling
  | none => return none

end Inlining
end Rulebook
