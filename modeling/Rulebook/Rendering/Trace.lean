import Rulebook.Rendering.Descent

/-!
# Traces of a descent

The renderer that only records what is asked of it: each request with its own arguments and the
number of pieces that it is given.
-/

namespace Rulebook

/-- One request to a renderer. -/
inductive Request where
  /-- A rule is announced. -/
  | enter (kind : RuleKind) (name : String)
  /-- At most one occurrence of a piece. -/
  | optional (greedy : Bool)
  /-- At least one occurrence of a piece. -/
  | plus (greedy : Bool)
  /-- Any number of occurrences of a piece. -/
  | star (greedy : Bool)
  /-- Anything but a piece. -/
  | negation
  /-- The characters between two pieces. -/
  | range
  /-- A rule around its body. -/
  | rule (count : Nat) (name : String) (line : Nat)
  /-- A choice between pieces. -/
  | block (grouping : Bool) (count : Nat)
  /-- A choice between single terminals. -/
  | set (grouping : Bool) (count : Nat)
  /-- One alternative. -/
  | alternative (grouping : Bool) (count : Nat)
  /-- Juxtaposed pieces. -/
  | sequence (count : Nat)
  /-- A token or a spelling. -/
  | terminal (shown : Terminal)
  /-- A reference to a parser rule. -/
  | ruleRef (name : String)
  /-- A set of characters. -/
  | charSet (body : String)
  /-- The place of an embedded action. -/
  | placeholder
  /-- A semantic condition. -/
  | predicate
  deriving DecidableEq, Repr

namespace Request

/-- The word for a truth value. -/
def flag (value : Bool) : String :=
  if value then "true" else "false"

/-- A request as one line: its name and its arguments. -/
def line : Request → String
  | enter kind name => "enter " ++ kind.word ++ " " ++ name
  | optional greedy => "optional " ++ flag greedy
  | plus greedy => "plus " ++ flag greedy
  | star greedy => "star " ++ flag greedy
  | negation => "not"
  | range => "range"
  | rule count name line => "rule " ++ toString count ++ " " ++ name ++ " " ++ toString line
  | block grouping count => "block " ++ flag grouping ++ " " ++ toString count
  | set grouping count => "set " ++ flag grouping ++ " " ++ toString count
  | alternative grouping count => "alt " ++ flag grouping ++ " " ++ toString count
  | sequence count => "sequence " ++ toString count
  | terminal shown => "terminal " ++ shown.written
  | ruleRef name => "rule_ref " ++ name
  | charSet body => "chars_set " ++ body
  | placeholder => "root"
  | predicate => "pred"

end Request

/-- Appends a request to the record. -/
def record (request : Request) : StateM (List Request) Unit :=
  modify fun earlier => earlier ++ [request]

/-- The renderer that records every request. -/
def recorder : Renderer (List Request) Unit where
  enter rule := record (.enter rule.kind rule.name)
  optional greedy _ := record (.optional greedy)
  plus greedy _ := record (.plus greedy)
  star greedy _ := record (.star greedy)
  negation _ := record .negation
  range _ _ := record .range
  rule body name line := record (.rule body.length name line)
  block grouping pieces := record (.block grouping pieces.length)
  set grouping pieces := record (.set grouping pieces.length)
  alternative grouping pieces := record (.alternative grouping pieces.length)
  sequence pieces := record (.sequence pieces.length)
  terminal shown := record (.terminal shown)
  ruleRef name := record (.ruleRef name)
  charSet body := record (.charSet body)
  placeholder := record .placeholder
  predicate := record .predicate

/-- The requests that rendering a rule makes, in order. -/
def Rule.trace (rule : Rule) : Except MissingOperand (List Request) :=
  ((rule.render recorder).run []).map Prod.snd

end Rulebook
