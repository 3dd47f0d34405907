import Rulebook.Grammar.Rule
import Rulebook.Notation.Choice
import Rulebook.Notation.Scanner

/-!
# Rule sets

A rule set is one `parser grammar` or `lexer grammar` with its rules.  Lexer commands and the labels
of alternatives are read and forgotten.
-/

namespace Rulebook

/-- The rules of one namespace as read from one source. -/
structure RuleSet where
  /-- The name of the grammar. -/
  name : String
  /-- The namespace of the rules. -/
  kind : RuleKind
  /-- The rules in order of declaration. -/
  rules : List Rule
  deriving DecidableEq

namespace Notation

/-- Reads a name. -/
def readIdentifier : List Item → Reading (String × Nat)
  | .leaf (.identifier name line) :: rest => .ok ((name, line), rest)
  | items => .error (missingBefore .identifier items)

/-- Reads a punctuation character. -/
def readMark (symbol : Char) (items : List Item) : Reading Unit :=
  if startsWithMark symbol items then .ok ((), items.drop 1) else .error (.missingMark symbol)

/-- Does a name stand at the front? -/
def startsWithIdentifier : List Item → Bool
  | .leaf (.identifier _ _) :: _ => true
  | _ => false

/-- Does a certain word stand at the front? -/
def startsWithWord (word : String) : List Item → Bool
  | .leaf (.identifier name _) :: _ => name == word
  | _ => false

/-- Does an alternative of a rule end before the tokens? -/
def endsInRule (items : List Item) : Bool :=
  items.isEmpty || startsWithMark '|' items || startsWithMark ';' items ||
    startsWithPair '-' '>' items || startsWithMark '#' items

/-- The tokens after the arguments of a command, if it has any. -/
def skipArguments : List Item → List Item
  | .choice _ :: rest => rest
  | items => items

theorem skipArguments_suffix (items : List Item) : skipArguments items <:+ items := by
  fun_cases skipArguments items with
  | case1 => exact List.suffix_cons _ _
  | case2 => exact List.suffix_refl _

theorem length_skipArguments_le (items : List Item) :
    (skipArguments items).length ≤ items.length :=
  (skipArguments_suffix items).length_le

theorem shortens_of_readIdentifier {items rest : List Item} {found : String × Nat}
    (read : readIdentifier items = .ok (found, rest)) : Shortens items rest := by
  revert read
  fun_cases readIdentifier items with
  | case1 =>
    intro read
    simp only [Except.ok.injEq, Prod.mk.injEq] at read
    exact read.2 ▸ .of_tail (List.suffix_refl _)
  | case2 => simp

theorem length_lt_of_readIdentifier {items rest : List Item} {found : String × Nat}
    (read : readIdentifier items = .ok (found, rest)) : rest.length < items.length :=
  (shortens_of_readIdentifier read).length_lt

/-- Skips lexer commands: names with optional arguments, separated by commas. -/
def skipCommands (items : List Item) : Except Fault (List Item) :=
  match _ : readIdentifier items with
  | .error fault => .error fault
  | .ok (_, rest) =>
      if startsWithMark ',' (skipArguments rest) then skipCommands ((skipArguments rest).drop 1)
      else .ok (skipArguments rest)
  termination_by items.length
  decreasing_by
    have rest_lt := length_lt_of_readIdentifier (by assumption)
    have skip_le := length_skipArguments_le rest
    rw [List.length_drop]
    omega

theorem suffix_of_skipCommands {items rest : List Item}
    (skip : skipCommands items = .ok rest) : rest <:+ items := by
  fun_induction skipCommands items with
  | case1 => simp_all
  | case2 items _ after read _ induction =>
    exact (induction skip).trans ((List.drop_suffix _ _).trans
      ((skipArguments_suffix after).trans (shortens_of_readIdentifier read).suffix))
  | case3 items _ after read _ =>
    simp only [Except.ok.injEq] at skip
    subst skip
    exact (skipArguments_suffix after).trans (shortens_of_readIdentifier read).suffix

/-- Skips the commands behind an arrow, if there is one. -/
def skipCommandList (items : List Item) : Except Fault (List Item) :=
  if startsWithPair '-' '>' items then skipCommands (items.drop 2) else .ok items

/-- Skips the name behind a number sign, if there is one. -/
def skipAlternativeLabel (items : List Item) : Except Fault (List Item) :=
  if startsWithMark '#' items then
    match readIdentifier (items.drop 1) with
    | .error fault => .error fault
    | .ok (_, rest) => .ok rest
  else .ok items

/-- Reads an alternative of a rule; commands and a label may follow its elements. -/
def readAlternative (items : List Item) : Reading Node :=
  match readElements endsInRule items with
  | .error fault => .error fault
  | .ok (nodes, rest) =>
      match skipCommandList rest with
      | .error fault => .error fault
      | .ok rest =>
          match skipAlternativeLabel rest with
          | .error fault => .error fault
          | .ok rest => .ok (Node.alternative nodes, rest)

theorem suffix_of_skipCommandList {items rest : List Item}
    (skip : skipCommandList items = .ok rest) : rest <:+ items := by
  unfold skipCommandList at skip
  split at skip
  · exact (suffix_of_skipCommands skip).trans (List.drop_suffix 2 items)
  · simp only [Except.ok.injEq] at skip
    exact skip ▸ List.suffix_refl items

/-- A label is a number sign and a name. -/
theorem skipAlternativeLabel_eq_ok {items rest : List Item} :
    skipAlternativeLabel items = .ok rest ↔
      if startsWithMark '#' items then ∃ found, readIdentifier (items.drop 1) = .ok (found, rest)
      else items = rest := by
  rw [skipAlternativeLabel]
  split
  · cases readIdentifier (items.drop 1) <;> simp [Prod.ext_iff]
  · simp

theorem suffix_of_skipAlternativeLabel {items rest : List Item}
    (skip : skipAlternativeLabel items = .ok rest) : rest <:+ items := by
  rw [skipAlternativeLabel_eq_ok] at skip
  split at skip
  · obtain ⟨found, read⟩ := skip
    exact (shortens_of_readIdentifier read).suffix.trans (List.drop_suffix 1 items)
  · exact skip ▸ List.suffix_refl items

/-- An alternative is a row of elements, then commands, then a label. -/
theorem readAlternative_eq_ok {items rest : List Item} {node : Node} :
    readAlternative items = .ok (node, rest) ↔
      ∃ nodes first second, readElements endsInRule items = .ok (nodes, first) ∧
        skipCommandList first = .ok second ∧ skipAlternativeLabel second = .ok rest ∧
          node = Node.alternative nodes := by
  constructor
  · fun_cases readAlternative items with
    | case1 | case2 | case3 => simp
    | case4 nodes first elements second commands third label =>
      intro read
      simp only [Except.ok.injEq, Prod.mk.injEq] at read
      obtain ⟨rfl, rfl⟩ := read
      exact ⟨nodes, first, second, elements, commands, label, rfl⟩
  · rintro ⟨nodes, first, second, elements, commands, label, rfl⟩
    simp only [readAlternative, elements, commands, label]

theorem suffix_of_readAlternative {items rest : List Item} {node : Node}
    (read : readAlternative items = .ok (node, rest)) : rest <:+ items := by
  obtain ⟨nodes, first, second, elements, commands, label, _⟩ := readAlternative_eq_ok.mp read
  exact (suffix_of_skipAlternativeLabel label).trans
    ((suffix_of_skipCommandList commands).trans (suffix_of_readElements elements))

theorem length_readAlternative_le {items rest : List Item} {node : Node}
    (read : readAlternative items = .ok (node, rest)) : rest.length ≤ items.length :=
  (suffix_of_readAlternative read).length_le

theorem length_drop_lt_of_startsWithMark {symbol : Char} {items : List Item}
    (starts : startsWithMark symbol items) : (items.drop 1).length < items.length := by
  cases items with
  | nil => simp [startsWithMark] at starts
  | cons => simp

/-- Reads alternatives separated by bars. -/
def readAlternatives (items : List Item) : Reading (List Node) :=
  match _ : readAlternative items with
  | .error fault => .error fault
  | .ok (node, rest) =>
      if _ : startsWithMark '|' rest then
        match readAlternatives (rest.drop 1) with
        | .error fault => .error fault
        | .ok (nodes, rest) => .ok (node :: nodes, rest)
      else .ok ([node], rest)
  termination_by items.length
  decreasing_by
    have rest_le := length_readAlternative_le (by assumption)
    have drop_lt := length_drop_lt_of_startsWithMark (by assumption)
    omega

theorem suffix_of_readAlternatives {items rest : List Item} {nodes : List Node}
    (read : readAlternatives items = .ok (nodes, rest)) : rest <:+ items := by
  fun_induction readAlternatives items generalizing nodes rest with
  | case1 | case2 => simp_all
  | case3 items node after first bar more last later induction =>
    simp only [Except.ok.injEq, Prod.mk.injEq] at read
    rw [← read.2]
    exact (induction later).trans
      ((List.drop_suffix 1 after).trans (suffix_of_readAlternative first))
  | case4 items node after first bar =>
    simp only [Except.ok.injEq, Prod.mk.injEq] at read
    rw [← read.2]
    exact suffix_of_readAlternative first

/-- Does a rule begin with the word that makes it a fragment?  The word alone is a name. -/
def startsWithFragment (items : List Item) : Bool :=
  startsWithWord "fragment" items && startsWithIdentifier (items.drop 1)

/-- Reads a rule of a namespace and a mode. -/
def readRule (kind : RuleKind) (mode : String) (items : List Item) : Reading Rule :=
  let isFragment := startsWithFragment items
  match readIdentifier (if isFragment then items.drop 1 else items) with
  | .error fault => .error fault
  | .ok ((name, line), rest) =>
      match readMark ':' rest with
      | .error fault => .error fault
      | .ok ((), rest) =>
          match readAlternatives rest with
          | .error fault => .error fault
          | .ok (alternatives, rest) =>
              match readMark ';' rest with
              | .error fault => .error fault
              | .ok ((), rest) =>
                  .ok ({ name, kind, isFragment, mode, line, body := Node.block alternatives },
                    rest)

theorem suffix_of_readMark {symbol : Char} {items rest : List Item}
    (read : readMark symbol items = .ok ((), rest)) : rest <:+ items := by
  unfold readMark at read
  split at read
  · simp only [Except.ok.injEq, Prod.mk.injEq, true_and] at read
    exact read ▸ List.drop_suffix 1 items
  · simp at read

/-- A rule is a name, a colon, alternatives and a semicolon. -/
theorem readRule_eq_ok {kind : RuleKind} {mode : String} {items rest : List Item} {rule : Rule} :
    readRule kind mode items = .ok (rule, rest) ↔
      ∃ name line first second alternatives third,
        readIdentifier (if startsWithFragment items then items.drop 1 else items) =
            .ok ((name, line), first) ∧
          readMark ':' first = .ok ((), second) ∧
          readAlternatives second = .ok (alternatives, third) ∧
          readMark ';' third = .ok ((), rest) ∧
          rule = { name, kind, isFragment := startsWithFragment items, mode, line,
                   body := Node.block alternatives } := by
  constructor
  · fun_cases readRule kind mode items with
    | case1 | case2 | case3 | case4 => simp
    | case5 isFragment name line first identifier second colon alternatives third body fourth
        semicolon =>
      intro read
      simp only [Except.ok.injEq, Prod.mk.injEq] at read
      obtain ⟨rfl, rfl⟩ := read
      exact ⟨name, line, first, second, alternatives, third, identifier, colon, body, semicolon,
        rfl⟩
  · rintro ⟨name, line, first, second, alternatives, third, identifier, colon, body, semicolon,
      rfl⟩
    simp only [readRule, identifier, colon, body, semicolon]

theorem shortens_of_readRule {kind : RuleKind} {mode : String} {items rest : List Item}
    {rule : Rule} (read : readRule kind mode items = .ok (rule, rest)) : Shortens items rest := by
  obtain ⟨name, line, first, second, alternatives, third, identifier, colon, body, semicolon, _⟩ :=
    readRule_eq_ok.mp read
  have behind : rest <:+ first := (suffix_of_readMark semicolon).trans
    ((suffix_of_readAlternatives body).trans (suffix_of_readMark colon))
  exact ((shortens_of_readIdentifier identifier).of_suffix
    (ite_drop_suffix _ 1 items)).trans_suffix behind

theorem length_lt_of_readRule {kind : RuleKind} {mode : String} {items rest : List Item}
    {rule : Rule} (read : readRule kind mode items = .ok (rule, rest)) :
    rest.length < items.length :=
  (shortens_of_readRule read).length_lt

/-- Reads the rules of one mode. -/
def readModeRules (kind : RuleKind) (mode : String) (items : List Item) :
    Except Fault (List Rule) :=
  if items.isEmpty then .ok []
  else
    match _ : readRule kind mode items with
    | .error fault => .error fault
    | .ok (rule, rest) =>
        match readModeRules kind mode rest with
        | .error fault => .error fault
        | .ok rules => .ok (rule :: rules)
  termination_by items.length
  decreasing_by exact length_lt_of_readRule (by assumption)

/-- Names that cannot name a mode. -/
def reservedWords : List String :=
  ["abstract", "as", "async", "await", "become", "box", "break", "const", "continue", "crate",
   "do", "dyn", "else", "enum", "extern", "false", "final", "fn", "for", "if", "impl", "in", "let",
   "loop", "macro", "match", "mod", "move", "mut", "override", "priv", "pub", "ref", "return",
   "Self", "self", "static", "struct", "super", "trait", "true", "try", "type", "typeof", "unsafe",
   "unsized", "use", "virtual", "where", "while", "yield", "_"]

/-- The mode that is declared at the front: its name, the tokens of its rules, and what follows. -/
def modeAtFront? : List Item → Option (String × List TokenTree × List Item)
  | .leaf (.identifier word _) :: .leaf (.identifier name _) :: .braces content :: rest =>
      if word = "mode" ∧ name ∉ reservedWords then some (name, content, rest) else none
  | _ => none

theorem length_lt_of_modeAtFront? {items rest : List Item} {name : String}
    {content : List TokenTree} (found : modeAtFront? items = some (name, content, rest)) :
    rest.length < items.length := by
  revert found
  fun_cases modeAtFront? items <;> intro found <;> simp_all
  omega

/-- Reads the rules of a rule set; those of a mode stand between its brackets. -/
def readRules (kind : RuleKind) (items : List Item) : Except Fault (List Rule) :=
  if items.isEmpty then .ok []
  else
    match _ : modeAtFront? items with
    | some (mode, content, rest) =>
        if kind = .parser then .error .modeInParser
        else
          match readModeRules kind mode (TokenTree.items content) with
          | .error fault => .error fault
          | .ok rules =>
              match readRules kind rest with
              | .error fault => .error fault
              | .ok later => .ok (rules ++ later)
    | none =>
        match _ : readRule kind defaultMode items with
        | .error fault => .error fault
        | .ok (rule, rest) =>
            match readRules kind rest with
            | .error fault => .error fault
            | .ok later => .ok (rule :: later)
  termination_by items.length
  decreasing_by
    · exact length_lt_of_modeAtFront? (by assumption)
    · exact length_lt_of_readRule (by assumption)

/-- Reads the word that says whose rules follow. -/
def readKind : List Item → Reading RuleKind
  | .leaf (.identifier word line) :: rest =>
      if word = "parser" then .ok (.parser, rest)
      else if word = "lexer" then .ok (.lexer, rest)
      else .error (missingBefore .opening (.leaf (.identifier word line) :: rest))
  | items => .error (missingBefore .opening items)

/-- Reads a certain word. -/
def readGrammarWord (items : List Item) : Reading Unit :=
  if startsWithWord "grammar" items then .ok ((), items.drop 1)
  else .error (missingBefore .grammarWord items)

/-- Reads the tokens between curly brackets. -/
def readBraces : List Item → Reading (List TokenTree)
  | .braces content :: rest => .ok (content, rest)
  | items => .error (missingBefore .braces items)

/-- Reads a rule set from items. -/
def readItems (items : List Item) : Except Fault RuleSet := do
  let (kind, rest) ← readKind items
  let ((), rest) ← readGrammarWord rest
  let ((name, _), rest) ← readIdentifier rest
  let (content, rest) ← readBraces rest
  let rules ← readRules kind (TokenTree.items content)
  if rest.isEmpty then .ok { name, kind, rules } else .error .trailing

end Notation

/-- Reads a rule set from tokens. -/
def RuleSet.ofTokens (tokens : List Notation.TokenTree) : Except Notation.Fault RuleSet :=
  Notation.readItems (Notation.TokenTree.items tokens)

/-- Reads a rule set from a text. -/
def RuleSet.ofText (text : String) : Except Notation.Fault RuleSet :=
  match Notation.tokens? text with
  | none => .error .tokens
  | some tokens => RuleSet.ofTokens tokens

end Rulebook
