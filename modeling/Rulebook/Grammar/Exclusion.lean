import Rulebook.Grammar.Rule

/-!
# Excluded rules

Excluded rules leave the listings, and references to them leave every body.  A node whose children
all go goes with them, and a range goes with either end.
-/

namespace Rulebook

/-- Are the children that remain enough for a node of the kind that had children? -/
def NodeKind.survives (kind : NodeKind) (remaining : List Node) : Bool :=
  match kind with
  | .range => remaining.length == 2
  | _ => !remaining.isEmpty

namespace Node

/-- Does the node refer to one of the excluded names? -/
def refersTo (excluded : List String) (node : Node) : Bool :=
  match node.referencedName? with
  | some name => excluded.contains name
  | none => false

mutual

/-- The body without references to excluded names, or nothing if nothing remains. -/
def prune (excluded : List String) : Node → Option Node
  | mk kind children =>
      if refersTo excluded (mk kind children) then none
      else if children.isEmpty then some (mk kind children)
      else
        let remaining := pruneAll excluded children
        if kind.survives remaining then some (mk kind remaining) else none

/-- What remains of a row of nodes. -/
def pruneAll (excluded : List String) : List Node → List Node
  | [] => []
  | node :: later =>
      match prune excluded node with
      | some kept => kept :: pruneAll excluded later
      | none => pruneAll excluded later

end
end Node

/-- The rule with what remains of its body; an empty choice stands for nothing. -/
def Rule.without (excluded : List String) (rule : Rule) : Rule :=
  { rule with body := (rule.body.prune excluded).getD (Node.block []) }

/-- The rules that are not excluded, without references to those that are. -/
def filterRules (excluded : List String) (rules : List Rule) : List Rule :=
  if excluded.isEmpty then rules
  else (rules.filter fun rule => !excluded.contains rule.name).map (Rule.without excluded)

end Rulebook
