import Rulebook.Proofs.Listing.Layout
import Rulebook.Proofs.Listing.Paragraphs

/-!
# Leaves in a listing

Every body is assembled from the texts of its tips, in their order, with signs and starts of lines
between them.  The layout keeps that, if no text of a tip holds a break mark.
-/

namespace Rulebook
namespace Listing

/-- The signs that the listing puts between the texts of tips. -/
def signs : List Char :=
  ['?', '+', '*', '~', '.', '(', ')', '|', ' ']

/-- A text that consists of leaves, unchanged and in order, with signs and starts of lines between
them. -/
inductive Weaves (starts : List (List Char)) : List (List Char) → List Char → Prop where
  /-- Nothing is left. -/
  | nil : Weaves starts [] []
  /-- A leaf. -/
  | leaf {leaves : List (List Char)} {rest : List Char} (leaf : List Char)
      (later : Weaves starts leaves rest) : Weaves starts (leaf :: leaves) (leaf ++ rest)
  /-- A sign. -/
  | sign {leaves : List (List Char)} {rest : List Char} {sign : Char} (listed : sign ∈ signs)
      (later : Weaves starts leaves rest) : Weaves starts leaves (sign :: rest)
  /-- The start of a line. -/
  | start {leaves : List (List Char)} {rest start : List Char} (listed : start ∈ starts)
      (later : Weaves starts leaves rest) : Weaves starts leaves (start ++ rest)

namespace Weaves

variable {starts : List (List Char)} {leaves others : List (List Char)} {text more : List Char}

theorem append (first : Weaves starts leaves text) (second : Weaves starts others more) :
    Weaves starts (leaves ++ others) (text ++ more) := by
  induction first with
  | nil => exact second
  | leaf leaf _ induction =>
      rw [List.cons_append, List.append_assoc]
      exact .leaf leaf induction
  | sign listed _ induction => exact .sign listed induction
  | start listed _ induction =>
      rw [List.append_assoc]
      exact .start listed induction

theorem single (leaf : List Char) : Weaves starts [leaf] leaf := by
  have woven : Weaves starts [leaf] (leaf ++ []) := .leaf leaf .nil
  rwa [List.append_nil] at woven

theorem of_signs (listed : ∀ sign ∈ text, sign ∈ signs) : Weaves starts [] text := by
  induction text with
  | nil => exact .nil
  | cons sign rest induction =>
      rw [List.forall_mem_cons] at listed
      exact .sign listed.1 (induction listed.2)

theorem of_start {start : List Char} (listed : start ∈ starts) : Weaves starts [] start := by
  simpa using Weaves.start listed .nil

/-- A leaf stands in the text. -/
theorem isInfix (weaves : Weaves starts leaves text) {leaf : List Char} (member : leaf ∈ leaves) :
    leaf <:+: text := by
  induction weaves with
  | nil => simp at member
  | @leaf _ rest first _ induction =>
      rcases List.mem_cons.mp member with rfl | later
      · exact (List.prefix_append leaf rest).isInfix
      · exact (induction later).trans (List.suffix_append first rest).isInfix
  | sign _ _ induction => exact (induction member).trans (List.suffix_cons _ _).isInfix
  | @start _ rest start _ _ induction =>
      exact (induction member).trans (List.suffix_append start rest).isInfix

/-- Rows of leaves with a separator between them. -/
theorem join {rows : List (List (List Char))} {texts : List Piece} {separator : List Char}
    (between : Weaves starts [] separator) (each : List.Forall₂ (Weaves starts) rows texts) :
    Weaves starts rows.flatten (join separator texts) := by
  induction each with
  | nil => exact .nil
  | @cons row text rows texts first later induction =>
      cases later with
      | nil => simpa [Listing.join] using first
      | cons =>
          have joined := (first.append between).append induction
          rw [List.append_nil] at joined
          exact joined

theorem range (first : Weaves starts leaves text) (second : Weaves starts others more) :
    Weaves starts (leaves ++ others) (text ++ ['.', '.'] ++ more) := by
  have dots : Weaves starts [] ['.', '.'] := .of_signs (by decide)
  simpa using (first.append dots).append second

theorem group (weaves : Weaves starts leaves text) (grouping : Bool) (count : Nat) :
    Weaves starts leaves (group grouping count text) := by
  unfold Listing.group
  split
  · have closed := weaves.append (.of_signs (by decide : ∀ sign ∈ [')'], sign ∈ signs))
    rw [List.append_nil] at closed
    exact .sign (by decide) closed
  · exact weaves

end Weaves

/-! ### Assembled bodies -/

section

variable {grammar : Grammar} {settings : Settings}

/-- The text that the listing shows for a tip. -/
def tipText (grammar : Grammar) (settings : Settings) : NodeKind → List Char
  | .terminal (.token name) => ((grammar.inlineSpelling? settings name).getD name).toList
  | .terminal (.literal value) => ("'" ++ Text.escapeLiteral value ++ "'").toList
  | .ruleRef name => name.toList
  | .charSet body => ("[" ++ Text.escapeSet body ++ "]").toList
  | _ => []

/-- What starts a line, or may start one, in an assembled body. -/
def bodyStarts : List (List Char) :=
  [[softBreak], [hardBreak], ['\n', '|', ' ']]

/-- Is a text assembled from the texts of some tips? -/
def Assembles (grammar : Grammar) (settings : Settings) (text : Piece) (tips : List NodeKind) : Prop :=
  Weaves bodyStarts (tips.map (tipText grammar settings)) text

theorem assembles_quantified {operand : Piece} {tips : List NodeKind}
    (assembles : Assembles grammar settings operand tips) {sign : Char} (listed : sign ∈ signs)
    (greedy : Bool) : Assembles grammar settings (operand ++ quantifier sign greedy) tips := by
  have behind : Weaves bodyStarts [] (quantifier sign greedy) := by
    refine .of_signs fun shown member => ?_
    unfold quantifier at member
    split at member
    · exact List.mem_singleton.mp member ▸ listed
    · rcases List.mem_cons.mp member with rfl | last
      · exact listed
      · exact List.mem_singleton.mp last ▸ by decide
  have whole := assembles.append behind
  rwa [List.append_nil] at whole

theorem weaves_of_assembles {texts : List Piece} {rows : List (List NodeKind)}
    (each : List.Forall₂ (Assembles grammar settings) texts rows) :
    List.Forall₂ (Weaves bodyStarts) (rows.map (List.map (tipText grammar settings))) texts :=
  List.forall₂_map_left_iff.mpr each.flip

theorem assembles_join {texts : List Piece} {rows : List (List NodeKind)} {separator : List Char}
    (between : Weaves bodyStarts [] separator)
    (each : List.Forall₂ (Assembles grammar settings) texts rows) :
    Assembles grammar settings (join separator texts) rows.flatten := by
  rw [Assembles, List.map_flatten]
  exact .join between (weaves_of_assembles each)

theorem assembles_choice {texts : List Piece} {rows : List (List NodeKind)}
    (each : List.Forall₂ (Assembles grammar settings) texts rows) (grouping : Bool) :
    Assembles grammar settings (choice grouping texts) rows.flatten := by
  unfold choice
  split
  · exact (assembles_join (.of_signs (by decide)) each).group grouping texts.length
  · exact assembles_join (.of_start (by decide)) each

theorem weaves_separator (lineBreaks? : Option (List Nat)) (position : Nat) :
    Weaves bodyStarts [] [separator lineBreaks? position] := by
  unfold separator
  split
  · exact .of_start (by decide)
  · split
    · exact .of_start (by decide)
    · exact .of_signs (by decide)

theorem assembles_separated {lineBreaks? : Option (List Nat)} {texts : List Piece}
    {rows : List (List NodeKind)} (each : List.Forall₂ (Assembles grammar settings) texts rows)
    (position : Nat) :
    Assembles grammar settings (separated lineBreaks? position texts) rows.flatten := by
  induction each generalizing position with
  | nil => exact .nil
  | cons first _ induction =>
      rw [Assembles, List.flatten_cons, List.map_append, separated]
      exact (((weaves_separator lineBreaks? position).append first).append (induction (position + 1)))

theorem assembles_elements {lineBreaks? : Option (List Nat)} {texts : List Piece}
    {rows : List (List NodeKind)} (each : List.Forall₂ (Assembles grammar settings) texts rows) :
    Assembles grammar settings (elements lineBreaks? texts) rows.flatten := by
  cases each with
  | nil => exact .nil
  | cons first later =>
      rw [Assembles, List.flatten_cons, List.map_append, elements]
      exact first.append (assembles_separated later 1)

/-- A tip assembles to its own text. -/
theorem assembles_tip (grammar : Grammar) (settings : Settings) (tip : NodeKind) :
    Assembles grammar settings (tipText grammar settings tip) [tip] := by
  rw [Assembles, List.map_singleton]
  exact .single _

theorem assembles_terminal (shown : Terminal) (state : State) :
    Assembles grammar settings (showTerminal grammar settings shown state).1 [.terminal shown] := by
  have tip := assembles_tip grammar settings (.terminal shown)
  cases shown with
  | literal value =>
      simp only [showTerminal]
      rw [tipText] at tip
      exact tip
  | token name =>
      cases found : grammar.inlineSpelling? settings name with
      | none =>
          rw [tipText, found] at tip
          rw [showTerminal, Inlining.run_resolve_of_none found]
          exact tip
      | some spelling =>
          rw [tipText, found] at tip
          rw [showTerminal, Inlining.run_resolve_of_some found]
          exact tip

/-- A step that shows the text of a tip that is no token, and does nothing else. -/
theorem stepsMatch_tip {tip : NodeKind} {text : Piece} (shown : tipText grammar settings tip = text)
    (no_token : ∀ name, tip ≠ .terminal (.token name)) :
    StepsMatch (Tracks grammar settings) (Assembles grammar settings) (pure text) (collect tip) :=
  fun _ _ related =>
    ⟨shown ▸ assembles_tip grammar settings tip, Inlining.Covers.of_not_token related no_token⟩

/-- The listing assembles the body of a rule from the texts of its tips. -/
theorem assembles_collector (grammar : Grammar) (settings : Settings) :
    Renderer.Matches (fun _ => True) (Tracks grammar settings) (Assembles grammar settings)
      (renderer grammar settings) collector where
  optional greedy _ _ _ operand := .pure (assembles_quantified operand (by decide) greedy)
  plus greedy _ _ _ operand := .pure (assembles_quantified operand (by decide) greedy)
  star greedy _ _ _ operand := .pure (assembles_quantified operand (by decide) greedy)
  negation _ _ _ operand := .pure (.sign (by decide) operand)
  range _ _ _ _ _ first second := by
    refine .pure ?_
    have dotted := Weaves.range first second
    rw [← List.map_append] at dotted
    exact dotted
  block grouping _ _ _ each := .pure (assembles_choice each grouping)
  set grouping _ _ _ each := .pure (assembles_choice each grouping)
  alternative grouping _ _ _ each _ _ related := ⟨(assembles_elements each).group grouping _, related⟩
  sequence _ _ _ each := .pure (assembles_join (.of_signs (by decide)) each)
  terminal shown _ start origin related :=
    ⟨assembles_terminal shown start,
      ((matches_collector grammar settings).terminal shown trivial start origin related).2⟩
  ruleRef _ _ := stepsMatch_tip rfl (by simp)
  charSet _ _ := stepsMatch_tip rfl (by simp)
  placeholder _ := stepsMatch_tip rfl (by simp)
  predicate _ := stepsMatch_tip rfl (by simp)

/-- Is a text the paragraph of a rule around a body that is assembled from its tips? -/
def IsAssembledParagraph (grammar : Grammar) (settings : Settings) (rule : Rule) (text : Piece) : Prop :=
  ∃ body, text = paragraph settings.textColumnBudget rule.name body ∧
    Assembles grammar settings body rule.body.tips

/-- A rule whose operators have their operands is rendered to its paragraph. -/
theorem rendersTo_assembledParagraph {rule : Rule} (complete : rule.body.HasOperands) :
    RendersTo (renderer grammar settings) (Tracks grammar settings)
      (IsAssembledParagraph grammar settings) rule := by
  intro start earlier related
  let entered : State := { start with lineBreaks? := settings.breaksOf? rule.name }
  have tracked : Tracks grammar settings entered earlier := related
  obtain ⟨text, reached, body, assembles, after⟩ :=
    (assembles_collector grammar settings).exists_render complete Position.body tracked
  refine ⟨paragraph settings.textColumnBudget rule.name ([text] : List Piece).flatten, reached,
    Rule.run_render_of_ok body, ⟨text, ?_, assembles⟩, after⟩
  rw [List.flatten_cons, List.flatten_nil, List.append_nil]

end
end Listing
end Rulebook
