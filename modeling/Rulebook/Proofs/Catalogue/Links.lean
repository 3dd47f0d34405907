import Rulebook.Catalogue.Entry
import Rulebook.Proofs.Rendering.Absorption

/-!
# Links of an entry

Apart from its decoration, the description of a rule consists of what its tips show of other rules: a
name with a note of the reference for every rule that is not shown as its spelling.
-/

namespace Rulebook

namespace Step

/-- Is the step a sign, a text, a line end or a remark? -/
def isDecoration : Step → Bool
  | element "symbol" [cdata _] => true
  | element "string" [cdata _] => true
  | element "crlf" [] => true
  | element "doc" [cdata _] => true
  | element "annotation" [text _] => true
  | element "other" [text _] => true
  | _ => false

/-- Steps without decoration. -/
def links (steps : List Step) : List Step :=
  steps.filter fun step => !step.isDecoration

@[simp]
theorem links_nil : links [] = [] :=
  rfl

@[simp]
theorem links_append (first later : List Step) :
    links (first ++ later) = links first ++ links later :=
  List.filter_append first later

@[simp]
theorem links_cons_symbol (sign : String) (later : List Step) :
    links (symbol sign :: later) = links later :=
  rfl

@[simp]
theorem links_cons_string (value : String) (later : List Step) :
    links (string value :: later) = links later :=
  rfl

@[simp]
theorem links_cons_whitespace (count : Nat) (later : List Step) :
    links (whitespace count :: later) = links later :=
  rfl

@[simp]
theorem links_cons_lineEnd (later : List Step) : links (lineEnd :: later) = links later :=
  rfl

@[simp]
theorem links_cons_annotation (value : String) (later : List Step) :
    links (element "annotation" [text value] :: later) = links later :=
  rfl

@[simp]
theorem links_documentation (text? : Option String) : links (documentation text?) = [] := by
  cases text? <;> rfl

end Step

namespace Catalogue

namespace Piece

/-- The links of pieces in order. -/
def linksOf (pieces : List Piece) : List Step :=
  pieces.flatMap fun piece => Step.links piece.steps

@[simp]
theorem linksOf_nil : linksOf [] = [] :=
  rfl

@[simp]
theorem linksOf_cons (piece : Piece) (later : List Piece) :
    linksOf (piece :: later) = Step.links piece.steps ++ linksOf later :=
  rfl

variable (grouping : Bool) (pieces : List Piece)

theorem links_quantified (sign : String) (greedy : Bool) (operand : Piece) :
    Step.links (operand.quantified sign greedy).steps = Step.links operand.steps := by
  cases greedy <;> simp [quantified]

@[simp]
theorem links_group (count : Nat) (steps : List Step) :
    Step.links (group grouping count steps) = Step.links steps := by
  unfold group
  split
  · simp
  · rfl

@[simp]
theorem links_bar : Step.links (bar grouping) = [] := by
  cases grouping <;> rfl

@[simp]
theorem links_barred : Step.links (barred grouping pieces) = linksOf pieces := by
  induction pieces with
  | nil => rfl
  | cons piece pieces induction => simp [barred, induction]

theorem links_choice : Step.links (choice grouping pieces).steps = linksOf pieces := by
  cases pieces with
  | nil => simp [choice, alternatives]
  | cons piece pieces => simp [choice, alternatives]

@[simp]
theorem links_filled (lineBreaks? : Option (List Nat)) (budget position buffered : Nat) :
    Step.links (filled lineBreaks? budget position buffered pieces) = linksOf pieces := by
  induction pieces generalizing position buffered with
  | nil => rfl
  | cons piece pieces induction =>
      rw [filled]
      split
      · simp [continuation, induction]
      · simp [induction]

theorem links_alternative (lineBreaks? : Option (List Nat)) (budget : Nat) :
    Step.links (alternative lineBreaks? budget grouping pieces).steps = linksOf pieces := by
  cases pieces with
  | nil => simp [alternative, elements]
  | cons piece pieces => simp [alternative, elements]

@[simp]
theorem links_spaced : Step.links (spaced pieces) = linksOf pieces := by
  induction pieces with
  | nil => rfl
  | cons piece pieces induction => simp [spaced, induction]

theorem links_sequence : Step.links (sequence pieces).steps = linksOf pieces := by
  cases pieces with
  | nil => rfl
  | cons piece pieces => simp [sequence]

end Piece

section

variable {grammar : Grammar} {settings : Settings} {user : String}

/-- What a tip in the rule `user` shows of the rule to which it refers. -/
def tipSteps (grammar : Grammar) (settings : Settings) (user : String) : NodeKind → List Step
  | .terminal (.token name) =>
      if (grammar.inlineSpelling? settings name).isSome then []
      else [.reference name user, Piece.token grammar settings name]
  | .ruleRef name => [Piece.identifier name, .reference name user]
  | _ => []

/-- What the tips of a body in the rule `user` show of other rules. -/
def bodyLinks (grammar : Grammar) (settings : Settings) (user : String) (tips : List NodeKind) :
    List Step :=
  tips.flatMap fun tip => Step.links (tipSteps grammar settings user tip)

/-- Does a piece show of other rules what some tips show of them? -/
def ShowsTips (grammar : Grammar) (settings : Settings) (user : String) (piece : Piece)
    (tips : List NodeKind) : Prop :=
  Step.links piece.steps = bodyLinks grammar settings user tips

theorem ShowsTips.append {first second : Piece} {tips more : List NodeKind}
    (shows : ShowsTips grammar settings user first tips)
    (also : ShowsTips grammar settings user second more) :
    Step.links first.steps ++ Step.links second.steps =
      bodyLinks grammar settings user (tips ++ more) := by
  rw [bodyLinks, List.flatMap_append, shows, also, bodyLinks, bodyLinks]

/-- Pieces that show tips one by one show all of them in order. -/
theorem linksOf_eq_of_forall₂ {pieces : List Piece} {tips : List (List NodeKind)}
    (all : List.Forall₂ (ShowsTips grammar settings user) pieces tips) :
    Piece.linksOf pieces = bodyLinks grammar settings user tips.flatten := by
  induction all with
  | nil => rfl
  | cons first _ induction =>
      rw [Piece.linksOf_cons, induction, first, List.flatten_cons]
      simp only [bodyLinks, List.flatMap_append]

/-- Has a rule been announced, and is what has been absorbed told by the tips so far? -/
structure Follows (grammar : Grammar) (settings : Settings) (user : String) (state : State)
    (tips : List NodeKind) : Prop where
  /-- The rule that has been announced last. -/
  user_eq : state.currentName = user
  /-- What has been absorbed. -/
  covers : state.inlining.Covers grammar settings tips

theorem Follows.of_not_token {state : State} {tips : List NodeKind}
    (follows : Follows grammar settings user state tips) {tip : NodeKind}
    (other : ∀ name, tip ≠ .terminal (.token name)) :
    Follows grammar settings user state (tips ++ [tip]) :=
  ⟨follows.user_eq, follows.covers.of_not_token other⟩

/-- A token is shown as its spelling, or by its name with a note of the reference. -/
theorem stepsMatch_token_collector (name : String) :
    StepsMatch (Follows grammar settings user) (ShowsTips grammar settings user)
      (showTerminal grammar settings (.token name)) (collect (.terminal (.token name))) := by
  intro state tips follows
  have covers := follows.covers.resolve name
  cases shown : grammar.inlineSpelling? settings name with
  | none =>
      have keeps := Inlining.run_resolve_of_none shown
      simp only [StateT.run, showTerminal] at keeps covers ⊢
      rw [keeps] at covers ⊢
      refine ⟨?_, follows.user_eq, covers⟩
      simp [ShowsTips, bodyLinks, collect, tipSteps, shown, follows.user_eq]
  | some spelling =>
      have resolved := Inlining.run_resolve_of_some shown
      simp only [StateT.run, showTerminal] at resolved covers ⊢
      rw [resolved] at covers ⊢
      refine ⟨?_, follows.user_eq, covers⟩
      simp [ShowsTips, bodyLinks, collect, tipSteps, shown, Piece.string]

/-- The catalogue shows of other rules what the tips of a body show of them. -/
theorem matches_collector (grammar : Grammar) (settings : Settings) (user : String) :
    Renderer.Matches (fun _ => True) (Follows grammar settings user)
      (ShowsTips grammar settings user) (renderer grammar settings) collector where
  optional greedy operand _ _ shows := .pure ((Piece.links_quantified "?" greedy operand).trans shows)
  plus greedy operand _ _ shows := .pure ((Piece.links_quantified "+" greedy operand).trans shows)
  star greedy operand _ _ shows := .pure ((Piece.links_quantified "*" greedy operand).trans shows)
  negation operand _ _ shows := .pure shows
  range left right _ _ _ first second := by
    refine .pure ?_
    simpa [ShowsTips] using first.append second
  block grouping pieces _ _ all :=
    .pure ((Piece.links_choice grouping pieces).trans (linksOf_eq_of_forall₂ all))
  set grouping pieces _ _ all :=
    .pure ((Piece.links_choice grouping pieces).trans (linksOf_eq_of_forall₂ all))
  alternative grouping pieces _ _ all := fun state _ follows =>
    ⟨(Piece.links_alternative grouping pieces state.lineBreaks? settings.columnBudget).trans
      (linksOf_eq_of_forall₂ all), follows⟩
  sequence pieces _ _ all :=
    .pure ((Piece.links_sequence pieces).trans (linksOf_eq_of_forall₂ all))
  terminal shown _ := by
    cases shown with
    | literal value => exact fun _ _ follows => ⟨rfl, follows.of_not_token (by simp)⟩
    | token name => exact stepsMatch_token_collector name
  ruleRef name _ := by
    intro state tips follows
    refine ⟨?_, follows.of_not_token (by simp)⟩
    rw [← follows.user_eq]
    rfl
  charSet _ _ := fun _ _ follows => ⟨rfl, follows.of_not_token (by simp)⟩
  placeholder _ := fun _ _ follows => ⟨rfl, follows.of_not_token (by simp)⟩
  predicate _ := fun _ _ follows => ⟨rfl, follows.of_not_token (by simp)⟩

end

end Catalogue
end Rulebook
