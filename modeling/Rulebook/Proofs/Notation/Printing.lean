import Rulebook.Proofs.Notation.Accepted

/-!
# Rule sets as tokens

A rule set is printed in the notation from which it can be read.  What a quantifier binds, a set and
a choice stand in parentheses; a second sign makes a quantifier reluctant; a fragment and a rule of
a lexer mode are announced by a word.
-/

namespace Rulebook
namespace Notation

/-- A punctuation character that stands alone. -/
def sign (symbol : Char) : TokenTree :=
  .leaf (.mark symbol false)

/-- A name on a line. -/
def word (line : Nat) (name : String) : TokenTree :=
  .leaf (.identifier name line)

/-- Rows of tokens with bars between them. -/
def barred (rows : List (List TokenTree)) : List TokenTree :=
  [sign '|'].intercalate rows

/-- The signs of a quantifier. -/
def quantifierSigns (symbol : Char) (greedy : Bool) : List TokenTree :=
  if greedy then [sign symbol] else [sign symbol, sign '?']

@[simp]
theorem barred_singleton (row : List TokenTree) : barred [row] = row := by
  simp [barred, List.intercalate]

@[simp]
theorem barred_cons_cons (row next : List TokenTree) (later : List (List TokenTree)) :
    barred (row :: next :: later) = row ++ sign '|' :: barred (next :: later) := by
  simp [barred, List.intercalate]

end Notation

open Notation

/-- The tokens of a node on a line, whose children have these tokens. -/
def NodeKind.tokens (line : Nat) (rows : List (List TokenTree)) : NodeKind → List TokenTree
  | .sequence | .alternative => rows.flatten
  | .block | .set => [.group .parenthesis (barred rows)]
  | .optional greedy => rows.flatten ++ quantifierSigns '?' greedy
  | .plus greedy => rows.flatten ++ quantifierSigns '+' greedy
  | .star greedy => rows.flatten ++ quantifierSigns '*' greedy
  | .negation => sign '~' :: rows.flatten
  | .range => [.leaf (.mark '.' true), sign '.'].intercalate rows
  | .terminal (.token name) | .ruleRef name => [word line name]
  | .terminal (.literal value) => [.leaf (.text value)]
  | .charSet body => [.group .bracket [.leaf (.text body)]]
  | .predicate => [.group .brace [], sign '?']
  | .placeholder => [.group .brace []]

namespace Node

mutual

/-- The tokens of a node on a line. -/
def tokens (line : Nat) : Node → List TokenTree
  | .mk kind children => kind.tokens line (tokensAll line children)

/-- The tokens of each of a row of nodes. -/
def tokensAll (line : Nat) : List Node → List (List TokenTree)
  | [] => []
  | node :: later => tokens line node :: tokensAll line later

end

theorem tokensAll_eq (line : Nat) (nodes : List Node) :
    tokensAll line nodes = nodes.map (tokens line) := by
  induction nodes with
  | nil => rfl
  | cons node nodes induction => rw [tokensAll, induction, List.map_cons]

theorem tokens_mk (line : Nat) (kind : NodeKind) (children : List Node) :
    (mk kind children).tokens line = kind.tokens line (children.map (tokens line)) := by
  rw [tokens, tokensAll_eq]

end Node

namespace Notation

/-- The tokens of a row of elements. -/
def rowTokens (line : Nat) (row : List Node) : List TokenTree :=
  (row.map (Node.tokens line)).flatten

@[simp]
theorem rowTokens_nil (line : Nat) : rowTokens line [] = [] := rfl

@[simp]
theorem rowTokens_cons (line : Nat) (node : Node) (row : List Node) :
    rowTokens line (node :: row) = node.tokens line ++ rowTokens line row := rfl

/-- The tokens of the alternatives of a choice. -/
theorem map_tokens_children (line : Nat) (rows : List (List Node)) :
    (choiceOf rows).children.map (Node.tokens line) = rows.map (rowTokens line) := by
  rw [choiceOf, Node.children_mk, List.map_map]
  exact List.map_congr_left fun row _ => Node.tokens_mk line .alternative row

theorem tokens_choiceOf (line : Nat) (rows : List (List Node)) :
    (choiceOf rows).tokens line = [.group .parenthesis (barred (rows.map (rowTokens line)))] := by
  rw [← map_tokens_children, choiceOf, Node.tokens_mk, Node.children_mk]
  rfl

/-- A set is printed as a choice between its members. -/
theorem tokens_set (line : Nat) (members : List Node) :
    (Node.mk .set members).tokens line = [.group .parenthesis
      (barred ((members.map fun member => [member]).map (rowTokens line)))] := by
  rw [Node.tokens_mk, List.map_map]
  simp [NodeKind.tokens, Function.comp_def]

theorem tokens_reference (line : Nat) (name : String) :
    (Node.reference name).tokens line = [word line name] := by
  unfold Node.reference
  cases RuleKind.ofName name <;> rfl

theorem tokens_range (line : Nat) (left right : Node) :
    (Node.mk .range [left, right]).tokens line =
      left.tokens line ++ .leaf (.mark '.' true) :: sign '.' :: right.tokens line := by
  rw [Node.tokens_mk]
  simp [NodeKind.tokens, List.intercalate]

theorem tokens_negation (line : Nat) (operand : Node) :
    (Node.mk .negation [operand]).tokens line = sign '~' :: operand.tokens line := by
  rw [Node.tokens_mk]
  simp [NodeKind.tokens]

/-! ### Names among printed tokens -/

theorem named_sign (symbol : Char) : (sign symbol).Named :=
  .leaf trivial

theorem named_word {name : String} (identifier : IsIdentifier name) (line : Nat) :
    (word line name).Named :=
  .leaf identifier

theorem named_intercalate {separator : List TokenTree} {rows : List (List TokenTree)}
    (between : ∀ tree ∈ separator, tree.Named) (each : ∀ row ∈ rows, ∀ tree ∈ row, tree.Named) :
    ∀ tree ∈ separator.intercalate rows, tree.Named := by
  induction rows with
  | nil => simp [List.intercalate]
  | cons row rows induction =>
      rw [List.forall_mem_cons] at each
      have later := induction each.2
      cases rows with
      | nil => simpa [List.intercalate] using each.1
      | cons next rows =>
          simp only [List.intercalate, List.intersperse_cons_cons, List.flatten_cons] at later ⊢
          exact List.forall_mem_append.mpr ⟨each.1, List.forall_mem_append.mpr ⟨between, later⟩⟩

theorem named_barred {rows : List (List TokenTree)}
    (each : ∀ row ∈ rows, ∀ tree ∈ row, tree.Named) : ∀ tree ∈ barred rows, tree.Named :=
  named_intercalate (List.forall_mem_singleton.mpr (named_sign '|')) each

theorem named_quantifierSigns (symbol : Char) (greedy : Bool) :
    ∀ tree ∈ quantifierSigns symbol greedy, tree.Named := by
  cases greedy <;> simp [quantifierSigns, named_sign]

/-- A node of a readable kind brings no names but identifiers to the tokens of its children. -/
theorem named_tokens_kind {kind : NodeKind} (readable : IsReadable kind) (line : Nat)
    {rows : List (List TokenTree)} (each : ∀ row ∈ rows, ∀ tree ∈ row, tree.Named) :
    ∀ tree ∈ kind.tokens line rows, tree.Named := by
  have flat : ∀ tree ∈ rows.flatten, tree.Named := List.forall_mem_flatten.mpr each
  cases kind with
  | sequence => exact readable.elim
  | alternative => exact flat
  | block | set => exact List.forall_mem_singleton.mpr (.group (named_barred each))
  | optional greedy | plus greedy | star greedy =>
      exact List.forall_mem_append.mpr ⟨flat, named_quantifierSigns _ greedy⟩
  | negation => exact List.forall_mem_cons.mpr ⟨named_sign '~', flat⟩
  | range =>
      refine named_intercalate (List.forall_mem_cons.mpr ⟨.leaf trivial, ?_⟩) each
      exact List.forall_mem_singleton.mpr (named_sign '.')
  | terminal shown =>
      cases shown with
      | token name => exact List.forall_mem_singleton.mpr (named_word readable line)
      | literal value => exact List.forall_mem_singleton.mpr (.leaf trivial)
  | ruleRef name => exact List.forall_mem_singleton.mpr (named_word readable line)
  | charSet body =>
      exact List.forall_mem_singleton.mpr (.group (List.forall_mem_singleton.mpr (.leaf trivial)))
  | predicate =>
      exact List.forall_mem_cons.mpr
        ⟨.group nofun, List.forall_mem_singleton.mpr (named_sign '?')⟩
  | placeholder => exact List.forall_mem_singleton.mpr (.group nofun)

theorem named_tokens {node : Node} (readable : node.AllKinds IsReadable) (line : Nat) :
    ∀ tree ∈ node.tokens line, tree.Named := by
  induction node with
  | mk kind children induction =>
      obtain ⟨here, below⟩ := Node.allKinds_mk.mp readable
      rw [Node.tokens_mk]
      refine named_tokens_kind here line (List.forall_mem_map.mpr fun child member => ?_)
      exact induction child member (below child member)

end Notation

/-- The tokens of a rule, without its mode. -/
def Rule.tokens (rule : Rule) : List TokenTree :=
  (if rule.isFragment then [word rule.line "fragment"] else []) ++
    word rule.line rule.name :: sign ':' ::
      (barred (rule.body.children.map (Node.tokens rule.line)) ++ [sign ';'])

/-- The tokens of a rule; those of a rule in a mode stand between the brackets of the mode. -/
def Rule.declaration (rule : Rule) : List TokenTree :=
  if rule.mode = "DEFAULT_MODE" then rule.tokens
  else [word rule.line "mode", word rule.line rule.mode, .group .brace rule.tokens]

/-- The word with which a rule set of a kind begins. -/
def RuleSet.opening : RuleKind → String
  | .parser => "parser"
  | .lexer => "lexer"

/-- The tokens of a rule set. -/
def RuleSet.tokens (rules : RuleSet) : List TokenTree :=
  [word 1 (RuleSet.opening rules.kind), word 1 "grammar", word 1 rules.name,
    .group .brace (rules.rules.flatMap Rule.declaration)]

end Rulebook
