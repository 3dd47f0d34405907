import Rulebook.Document.Builder
import Rulebook.Grammar.Inlining
import Rulebook.Grammar.Section
import Rulebook.Rendering.Descent

/-!
# Entries of the catalogue

Every rule becomes an entry: steps that write its declaration and its description.  What a node
renders to is kept as steps together with the width that its text will have, from which alternatives
decide where their lines end.
-/

namespace Rulebook
namespace Catalogue

/-- The rule whose body is being rendered. -/
structure CurrentRule where
  /-- The name of the rule. -/
  name : String
  /-- The namespace of the rule. -/
  kind : RuleKind
  /-- The elements that start a line, if that is settled. -/
  lineBreaks? : Option (List Nat)
  deriving DecidableEq, Repr

/-- What the catalogue keeps from one node to the next. -/
structure State where
  /-- The lexer rules shown as their spelling so far. -/
  inlining : Inlining := {}
  /-- The rule announced last. -/
  current? : Option CurrentRule := none
  deriving DecidableEq, Repr

namespace State

/-- The name of the rule announced last. -/
def currentName (state : State) : String :=
  (state.current?.map CurrentRule.name).getD ""

/-- The namespace of the rule announced last. -/
def currentKind (state : State) : RuleKind :=
  (state.current?.map CurrentRule.kind).getD .parser

/-- The elements that start a line in the rule announced last, if that is settled. -/
def lineBreaks? (state : State) : Option (List Nat) :=
  state.current?.bind CurrentRule.lineBreaks?

end State

/-- A rendered node. -/
structure Piece where
  /-- The width that the text is expected to have, in bytes. -/
  length : Nat
  /-- The section that a rule opens. -/
  heading? : Option String := none
  /-- What writes the node. -/
  steps : List Step

namespace Piece

/-- A node that shows nothing. -/
def nothing : Piece :=
  { length := 0, steps := [] }

/-- A piece of text. -/
def string (value : String) : Piece :=
  { length := value.utf8ByteSize, steps := [.string value] }

/-- The widths of pieces together. -/
def totalLength (pieces : List Piece) : Nat :=
  pieces.foldr (fun piece total => piece.length + total) 0

/-- An operand and the sign of its quantifier, with a question mark if it is reluctant. -/
def quantified (sign : String) (greedy : Bool) (operand : Piece) : Piece :=
  { length := operand.length + 1 + (if greedy then 0 else 1)
    steps := operand.steps ++ .symbol sign :: (if greedy then [] else [.symbol "?"]) }

/-- Signs of parentheses around more than one piece, if they are to be grouped. -/
def group (grouping : Bool) (count : Nat) (steps : List Step) : List Step :=
  if grouping && decide (count > 1) then .symbol "(" :: steps ++ [.symbol ")"] else steps

/-- What stands between two alternatives. -/
def bar (grouping : Bool) : List Step :=
  (if grouping then [.whitespace 1] else [.lineEnd, .whitespace 2]) ++
    [.symbol "|", .whitespace 1]

/-- The alternatives after the first, each behind a bar. -/
def barred (grouping : Bool) : List Piece → List Step
  | [] => []
  | piece :: later => bar grouping ++ piece.steps ++ barred grouping later

/-- The alternatives of a choice with the bars between them. -/
def alternatives (grouping : Bool) : List Piece → List Step
  | [] => []
  | first :: later => first.steps ++ barred grouping later

/-- A choice between alternatives. -/
def choice (grouping : Bool) (pieces : List Piece) : Piece :=
  { length := totalLength pieces + 3 * pieces.length
    steps := group grouping pieces.length (alternatives grouping pieces) }

/-- What starts the line of an element. -/
def continuation : List Step :=
  [.lineEnd, .whitespace 3]

/-- Does a line end before the element at a position?  Settled breaks count instead of the
budget. -/
def breaksBefore (lineBreaks? : Option (List Nat)) (budget position buffered : Nat) : Bool :=
  match lineBreaks? with
  | none => buffered > budget
  | some positions => positions.contains position

/-- The elements from a position on.  `buffered` is the width of the line so far without its first
element. -/
def filled (lineBreaks? : Option (List Nat)) (budget : Nat) :
    (position buffered : Nat) → List Piece → List Step
  | _, _, [] => []
  | position, buffered, piece :: later =>
      let reached := buffered + piece.length
      if breaksBefore lineBreaks? budget position reached then
        continuation ++ .whitespace 1 :: piece.steps ++
          filled lineBreaks? budget (position + 1) 0 later
      else
        .whitespace 1 :: piece.steps ++ filled lineBreaks? budget (position + 1) reached later

/-- The elements of an alternative on as many lines as they need. -/
def elements (lineBreaks? : Option (List Nat)) (budget : Nat) : List Piece → List Step
  | [] => []
  | first :: later => first.steps ++ filled lineBreaks? budget 1 0 later

/-- One alternative. -/
def alternative (lineBreaks? : Option (List Nat)) (budget : Nat) (grouping : Bool)
    (pieces : List Piece) : Piece :=
  { length := totalLength pieces + pieces.length * pieces.length
    steps := group grouping pieces.length (elements lineBreaks? budget pieces) }

/-- The elements after the first, each behind a blank. -/
def spaced : List Piece → List Step
  | [] => []
  | piece :: later => .whitespace 1 :: piece.steps ++ spaced later

/-- Juxtaposed elements. -/
def sequence (pieces : List Piece) : Piece :=
  { length := totalLength pieces + (pieces.length - 1)
    steps :=
      match pieces with
      | [] => []
      | first :: later => first.steps ++ spaced later }

/-- The mark of an entry rule. -/
def startMark (isStart : Bool) : List Step :=
  if isStart then [.element "annotation" [.text "start"]] else []

/-- The declaration of a rule. -/
def declaration (name : String) : Step :=
  .element "declaration" [.setAttribute "name" name, .declare name]

/-- The description of a rule around the steps of its body. -/
def description (body : List Step) : Step :=
  .element "description" <|
    [.whitespace 2, .symbol ":", .whitespace 1] ++ body ++
      [.lineEnd, .whitespace 2, .element "other" [.text ";"]]

/-- A reference shown as the name of its target. -/
def identifier (name : String) : Step :=
  .element "identifier" [.setAttribute "name" name]

/-- A token shown as a link. -/
def link (address name : String) : Step :=
  .element "other" [.cdata ("<a href=\"" ++ address ++ "\" target=\"_blank\">" ++ name ++ "</a>")]

/-- A token that keeps its name. -/
def token (grammar : Grammar) (settings : Settings) (name : String) : Step :=
  match settings.linkOf? name with
  | some address => link address name
  | none => if (grammar.rule? .lexer name).isSome then identifier name else .string name

end Piece

/-- The rendering of a terminal; a token may be shown as its spelling. -/
def showTerminal (grammar : Grammar) (settings : Settings) (shown : Terminal) :
    StateM State Piece := fun state =>
  match shown with
  | .literal value => (.string (Terminal.literal value).written, state)
  | .token name =>
      let (spelling?, inlining) := (Inlining.resolve grammar settings name).run state.inlining
      match spelling? with
      | some spelling => (.string spelling, { state with inlining })
      | none =>
          ({ length := name.utf8ByteSize
             steps := [.reference name state.currentName, Piece.token grammar settings name] },
            { state with inlining })

/-- The renderer of the catalogue. -/
def renderer (grammar : Grammar) (settings : Settings) : Renderer State Piece where
  enter rule := modify fun state =>
    { state with current? := some ⟨rule.name, rule.kind, settings.breaksOf? rule.name⟩ }
  optional greedy operand := return operand.quantified "?" greedy
  plus greedy operand := return operand.quantified "+" greedy
  star greedy operand := return operand.quantified "*" greedy
  negation operand := return {
    length := operand.length + 1
    steps := .symbol "~" :: operand.steps }
  range left right := return {
    length := left.length + right.length + 2
    steps := left.steps ++ .string ".." :: right.steps }
  rule body name line := do
    let state ← get
    return {
      length := Piece.totalLength body
      heading? :=
        Section.openedAt? (grammar.source state.currentKind) settings.sectionMarkerOffset line
      steps := Piece.startMark (settings.isStartRule name) ++
        [Piece.declaration name, Piece.description (body.flatMap Piece.steps)] }
  block grouping pieces := return .choice grouping pieces
  set grouping pieces := return .choice grouping pieces
  alternative grouping pieces := do
    let state ← get
    return .alternative state.lineBreaks? settings.columnBudget grouping pieces
  sequence pieces := return .sequence pieces
  terminal shown := showTerminal grammar settings shown
  ruleRef name := do
    let state ← get
    return {
      length := name.utf8ByteSize
      steps := [Piece.identifier name, .reference name state.currentName] }
  charSet body := return .string (Text.bracketedSet body)
  placeholder := return .nothing
  predicate := return .nothing

end Catalogue
end Rulebook
