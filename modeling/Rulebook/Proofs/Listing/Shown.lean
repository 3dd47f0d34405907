import Rulebook.Listing.Paragraph
import Rulebook.Proofs.Grammar.Inlining
import Rulebook.Proofs.Listing.Reading
import Rulebook.Proofs.Rendering.Simulation

/-!
# What the listing shows of a body

In a grammar without lexer rules, and for a rule without settled line breaks, the text of every body
that the reader can build shows the marks of the body.
-/

namespace Rulebook
namespace Listing

section

variable {grammar : Grammar} {settings : Settings}

/-- Is a text what a node renders to at a position, when no line breaks are settled? -/
def Shows (grammar : Grammar) (settings : Settings) (outer : Position) (node : Node)
    (text : Piece) : Prop :=
  ∀ state : State, state.lineBreaks? = none →
    (node.render (renderer grammar settings) outer).run state = .ok (text, state)

theorem Shows.renderAll {position : Position} {nodes : List Node} {texts : List Piece}
    (shows : List.Forall₂ (Shows grammar settings position) nodes texts) (state : State)
    (none : state.lineBreaks? = none) :
    (Node.renderAll (renderer grammar settings) position nodes).run state = .ok (texts, state) := by
  induction shows with
  | nil => rfl
  | cons head _ induction => exact Node.run_renderAll_cons_of_ok (head state none) induction

theorem shows_choice {kind : NodeKind} (chooses : kind.isChoice = true) (outer : Position)
    {nodes : List Node} (texts : List Piece)
    (shows : List.Forall₂ (Shows grammar settings (outer.below kind nodes)) nodes texts) :
    Shows grammar settings outer (.mk kind nodes)
      (choice (Node.needsGrouping (.mk kind nodes) && !outer.sole) texts) := by
  intro state none
  cases kind with
  | block | set => exact Descent.run_bind_of_ok (Shows.renderAll shows state none)
  | _ => simp [NodeKind.isChoice] at chooses

theorem shows_alternative (outer : Position) {nodes : List Node} (texts : List Piece)
    (shows : List.Forall₂ (Shows grammar settings (outer.below .alternative nodes)) nodes texts) :
    Shows grammar settings outer (Node.alternative nodes)
      (group (Node.needsGrouping (Node.alternative nodes) && !outer.sole && !outer.inChoice)
        texts.length (elements none texts)) := by
  intro state none
  rw [Node.alternative, Node.render, Descent.run_bind_of_ok (Shows.renderAll shows state none),
    ← none]
  rfl

theorem below_of_isOperator {kind : NodeKind} (operates : kind.isOperator = true)
    (outer : Position) (nodes : List Node) : outer.below kind nodes = ⟨false, false⟩ := by
  cases kind <;> simp [NodeKind.isOperator, Position.below, NodeKind.isChoice] at operates ⊢

theorem shows_quantified {kind : NodeKind} (quantifies : kind.isQuantifier = true)
    (outer : Position) {operand : Node} {text : Piece}
    (shows : Shows grammar settings ⟨false, false⟩ operand text) :
    Shows grammar settings outer (.mk kind [operand])
      (text ++ quantifier kind.quantifierSign kind.isGreedy) := by
  intro state none
  have operates : kind.isOperator = true := by
    cases kind <;> simp [NodeKind.isQuantifier, NodeKind.isOperator] at quantifies ⊢
  have inner : (Node.renderFirst (renderer grammar settings) (outer.below kind [operand]) kind
      [operand]).run state = .ok (text, state) := by
    rw [below_of_isOperator operates]
    exact shows state none
  cases kind with
  | optional | plus | star => exact Descent.run_bind_of_ok inner
  | _ => simp [NodeKind.isQuantifier] at quantifies

theorem shows_negation (outer : Position) {operand : Node} {text : Piece}
    (shows : Shows grammar settings ⟨false, false⟩ operand text) :
    Shows grammar settings outer (.mk .negation [operand]) ('~' :: text) := by
  intro state none
  have inner : (Node.renderFirst (renderer grammar settings) (outer.below .negation [operand])
      .negation [operand]).run state = .ok (text, state) := by
    rw [below_of_isOperator rfl]
    exact shows state none
  exact Descent.run_bind_of_ok inner

theorem shows_range (outer : Position) {left right : Node} {first second : Piece}
    (shows_left : Shows grammar settings ⟨false, false⟩ left first)
    (shows_right : Shows grammar settings ⟨false, false⟩ right second) :
    Shows grammar settings outer (.mk .range [left, right]) (first ++ ['.', '.'] ++ second) := by
  intro state none
  have ends : (Node.renderEnds (renderer grammar settings) (outer.below .range [left, right])
      [left, right]).run state = .ok ((first, second), state) := by
    rw [below_of_isOperator rfl]
    exact Node.run_renderEnds_of_ok (shows_left state none) (shows_right state none)
  exact Descent.run_bind_of_ok ends

theorem shows_literal (outer : Position) (value : String) :
    Shows grammar settings outer (Node.literal value) (Terminal.literal value).written.toList :=
  fun _ _ => rfl

theorem shows_charSet (outer : Position) (body : String) :
    Shows grammar settings outer (Node.leaf (.charSet body)) (Text.bracketedSet body).toList :=
  fun _ _ => rfl

/-- Without lexer rules every reference is shown as its name. -/
theorem shows_reference (no_tokens : grammar.lexerRules = []) (outer : Position) (name : String) :
    Shows grammar settings outer (Node.reference name) name.toList := by
  intro state _
  unfold Node.reference
  cases RuleKind.ofName name with
  | parser => rfl
  | lexer =>
      have unknown : grammar.inlineSpelling? settings name = none := by
        simp [Grammar.inlineSpelling?, Grammar.rule?, Grammar.rules, no_tokens]
      have shown : showTerminal grammar settings (.token name) state = (name.toList, state) := by
        rw [showTerminal, Inlining.run_resolve_of_none unknown]
        rfl
      exact congrArg Except.ok shown

/-! ### Bodies of the notation -/

/-- Is a node shown by a piece inside an element, and by a piece where it is all of a rule? -/
def ShowsMarks (grammar : Grammar) (settings : Settings) (node : Node) : Prop :=
  (∃ text, Shows grammar settings ⟨false, false⟩ node text ∧ Reads text node.marks) ∧
    ∃ text, Shows grammar settings Position.body node text ∧ ReadsBody text node.marks

theorem ShowsMarks.of_anywhere {node : Node} (text : Piece)
    (shows : ∀ outer, Shows grammar settings outer node text) (reads : Reads text node.marks) :
    ShowsMarks grammar settings node :=
  ⟨⟨text, shows _, reads⟩, ⟨text, shows _, reads.body⟩⟩

/-- Texts for the nodes of a row, one for each. -/
theorem exists_texts {shows : Node → Piece → Prop} (reads : Piece → List Mark → Prop)
    {nodes : List Node}
    (each : ∀ node ∈ nodes, ∃ text, shows node text ∧ reads text node.marks) :
    ∃ texts, List.Forall₂ shows nodes texts ∧
      List.Forall₂ reads texts (nodes.map Node.marks) := by
  induction nodes with
  | nil => exact ⟨[], .nil, .nil⟩
  | cons node nodes induction =>
      rw [List.forall_mem_cons] at each
      obtain ⟨text, shown, read⟩ := each.1
      obtain ⟨texts, all_shown, all_read⟩ := induction each.2
      exact ⟨text :: texts, .cons shown all_shown, .cons read all_read⟩

theorem alternative_in_choice {row : List Node}
    (each : ∀ node ∈ row, ShowsMarks grammar settings node) :
    ∃ text, Shows grammar settings ⟨false, true⟩ (Node.alternative row) text ∧
      ReadsAlternatives text [(Node.alternative row).marks] := by
  obtain ⟨texts, shown, read⟩ := exists_texts Reads fun node member => (each node member).1
  refine ⟨_, shows_alternative ⟨false, true⟩ texts shown, ?_⟩
  simpa [group, Node.marks_alternative] using readsAlternatives_elements read

/-- Several elements are put in parentheses, unless they are all of a rule. -/
theorem showsMarks_alternative {row : List Node}
    (each : ∀ node ∈ row, ShowsMarks grammar settings node) :
    ShowsMarks grammar settings (Node.alternative row) := by
  rcases row with _ | ⟨node, _ | ⟨second, later⟩⟩
  · refine .of_anywhere [] (fun outer => ?_) ?_
    · simpa [group, elements] using shows_alternative outer [] .nil
    · simpa [Node.marks_alternative] using Reads.nil
  · obtain ⟨⟨inner, shown_inner, reads_inner⟩, ⟨whole, shown_whole, reads_whole⟩⟩ :=
      each node List.mem_cons_self
    rw [ShowsMarks, Node.marks_alternative]
    refine ⟨⟨inner, ?_, reads_inner⟩, ⟨whole, ?_, reads_whole⟩⟩
    · simpa [group, elements, separated] using
        shows_alternative ⟨false, false⟩ [inner] (.cons shown_inner .nil)
    · simpa [group, elements, separated] using
        shows_alternative Position.body [whole] (.cons shown_whole .nil)
  · obtain ⟨texts, shown, read⟩ := exists_texts Reads fun node member => (each node member).1
    have inside := readsAlternatives_elements read
    have same := read.length_eq
    have groups : Node.needsGrouping (Node.alternative (node :: second :: later)) = true := by
      simp [Node.alternative, Node.needsGrouping, NodeKind.isGroup]
    have below : Position.body.below .alternative (node :: second :: later) = ⟨false, false⟩ := by
      simp [Position.below, Position.body, NodeKind.isChoice]
    have element := shows_alternative ⟨false, false⟩ texts shown
    have body := shows_alternative Position.body texts (below.symm ▸ shown)
    rw [ShowsMarks, Node.marks_alternative]
    refine ⟨⟨_, element, ?_⟩, ⟨_, body, ?_⟩⟩
    · simpa [group, groups, same] using inside.group
    · simpa [group, Position.body] using inside.body

/-- A single alternative is shown like what it holds. -/
theorem showsMarks_choice_single {kind : NodeKind} (chooses : kind.isChoice = true) {node : Node}
    (shows : ShowsMarks grammar settings node) : ShowsMarks grammar settings (.mk kind [node]) := by
  obtain ⟨⟨inner, shown_inner, reads_inner⟩, ⟨whole, shown_whole, reads_whole⟩⟩ := shows
  have plain : kind.isOperator = false := by
    cases kind <;> simp [NodeKind.isChoice, NodeKind.isOperator] at chooses ⊢
  have below (sole : Bool) : Position.below ⟨sole, false⟩ kind [node] = ⟨sole, false⟩ := by
    simp [Position.below, plain]
  rw [ShowsMarks, Node.marks_choice chooses]
  refine ⟨⟨inner, ?_, reads_inner⟩, ⟨whole, ?_, reads_whole⟩⟩
  · simpa [choice, join] using shows_choice chooses ⟨false, false⟩ [inner]
      (.cons ((below false).symm ▸ shown_inner) .nil)
  · simpa [choice, join] using shows_choice chooses Position.body [whole]
      (.cons ((below true).symm ▸ shown_whole) .nil)

/-- Several alternatives are put in parentheses, unless they are all of a rule. -/
theorem showsMarks_choice_several {kind : NodeKind} (chooses : kind.isChoice = true)
    {nodes : List Node} (several : nodes.length > 1)
    (each : ∀ node ∈ nodes, ∃ text, Shows grammar settings ⟨false, true⟩ node text ∧
      ReadsAlternatives text [node.marks]) : ShowsMarks grammar settings (.mk kind nodes) := by
  obtain ⟨texts, shown, read⟩ := exists_texts (fun text row => ReadsAlternatives text [row]) each
  have same := read.length_eq
  rw [List.length_map] at same
  have some : nodes.map Node.marks ≠ [] := by
    rw [← List.length_pos_iff, List.length_map]
    omega
  have groups : Node.needsGrouping (.mk kind nodes) = true := by
    cases kind <;> simp [NodeKind.isChoice, Node.needsGrouping, NodeKind.isGroup] at chooses ⊢ <;>
      simp [several]
  have below (sole : Bool) : Position.below ⟨sole, false⟩ kind nodes = ⟨false, true⟩ := by
    simp [Position.below, chooses, several, Nat.not_le_of_gt several]
  have barred := readsAlternatives_join (by decide) Recovery.run_bar read some
  have lined := readsAlternatives_join (by decide) Recovery.run_lineBar read some
  have element := shows_choice chooses ⟨false, false⟩ texts ((below false).symm ▸ shown)
  have body := shows_choice chooses Position.body texts ((below true).symm ▸ shown)
  rw [ShowsMarks, Node.marks_choice chooses]
  refine ⟨⟨_, element, ?_⟩, ⟨_, body, ?_⟩⟩
  · simpa [choice, group, groups, same, several] using barred.group
  · simpa [choice, Position.body] using lined.body

theorem showsMarks_choiceOf {rows : List (List Node)} (some : rows ≠ [])
    (each : ∀ row ∈ rows, ∀ node ∈ row, ShowsMarks grammar settings node) :
    ShowsMarks grammar settings (Notation.choiceOf rows) := by
  rcases rows with _ | ⟨row, _ | ⟨second, later⟩⟩
  · exact (some rfl).elim
  · exact showsMarks_choice_single rfl (showsMarks_alternative (each row List.mem_cons_self))
  · refine showsMarks_choice_several rfl (by simp) ?_
    exact List.forall_mem_map.mpr fun row member => alternative_in_choice (each row member)

theorem shows_identifier (no_tokens : grammar.lexerRules = []) {name : String}
    (identifier : Notation.IsIdentifier name) :
    ∃ text, (∀ outer, Shows grammar settings outer (Node.reference name) text) ∧
      Reads text (Node.reference name).marks :=
  ⟨_, fun outer => shows_reference no_tokens outer name,
    (Node.marks_reference name).symm ▸ Reads.name identifier⟩

theorem showsMarks_reference (no_tokens : grammar.lexerRules = []) {name : String}
    (identifier : Notation.IsIdentifier name) :
    ShowsMarks grammar settings (Node.reference name) := by
  obtain ⟨text, shown, reads⟩ := shows_identifier no_tokens identifier
  exact .of_anywhere text shown reads

/-- A node that may be a member of a set is shown alike wherever it stands. -/
theorem shows_setMember (no_tokens : grammar.lexerRules = []) {member : Node}
    (element : Notation.IsElement member) (single : Notation.IsMember member) :
    ∃ text, (∀ outer, Shows grammar settings outer member text) ∧ Reads text member.marks := by
  cases single with
  | literal value =>
      refine ⟨_, fun outer => shows_literal outer value, ?_⟩
      exact (Node.marks_literal value).symm ▸ Reads.literal value
  | charSet body =>
      refine ⟨_, fun outer => shows_charSet outer body, ?_⟩
      exact (Node.marks_charSet body).symm ▸ Reads.charSet body
  | token name =>
      cases element with
      | token identifier spelled upper =>
          rw [← Notation.reference_eq_token spelled upper]
          exact shows_identifier no_tokens identifier

theorem showsMarks_set (no_tokens : grammar.lexerRules = []) {members : List Node}
    (some : members ≠ []) (each : ∀ member ∈ members, Notation.IsElement member)
    (single : ∀ member ∈ members, Notation.IsMember member) :
    ShowsMarks grammar settings (.mk .set members) := by
  rcases members with _ | ⟨member, _ | ⟨second, later⟩⟩
  · exact (some rfl).elim
  · obtain ⟨text, shown, reads⟩ := shows_setMember no_tokens (each member List.mem_cons_self)
      (single member List.mem_cons_self)
    exact showsMarks_choice_single rfl (.of_anywhere _ shown reads)
  · refine showsMarks_choice_several rfl (by simp) fun node member => ?_
    obtain ⟨text, shown, reads⟩ := shows_setMember no_tokens (each node member) (single node member)
    exact ⟨text, shown _, reads.alternative⟩

/-- Every element without silent parts shows its marks. -/
theorem showsMarks_of_isElement (no_tokens : grammar.lexerRules = []) {node : Node}
    (element : Notation.IsElement node) (voiced : node.AllKinds (·.isSilent = false)) :
    ShowsMarks grammar settings node := by
  induction element with
  | literal value =>
      exact .of_anywhere _ (fun outer => shows_literal outer value)
        ((Node.marks_literal value).symm ▸ Reads.literal value)
  | charSet body =>
      exact .of_anywhere _ (fun outer => shows_charSet outer body)
        ((Node.marks_charSet body).symm ▸ Reads.charSet body)
  | token identifier spelled upper =>
      rw [← Notation.reference_eq_token spelled upper]
      exact showsMarks_reference no_tokens identifier
  | ruleRef identifier spelled other =>
      rw [← Notation.reference_eq_ruleRef spelled other]
      exact showsMarks_reference no_tokens identifier
  | predicate => simp [Node.allKinds_mk, NodeKind.isSilent] at voiced
  | placeholder => simp [Node.allKinds_mk, NodeKind.isSilent] at voiced
  | choice some _ induction =>
      have below := (Notation.allKinds_choiceOf.mp voiced).2
      exact showsMarks_choiceOf some fun row member node present =>
        induction row member node present ((below row member).2 node present)
  | @quantified quantifier rows quantifies some _ induction =>
      have operand := (Node.allKinds_mk.mp voiced).2 _ (List.mem_singleton.mpr rfl)
      have below := (Notation.allKinds_choiceOf.mp operand).2
      obtain ⟨⟨text, shown, reads⟩, -⟩ := showsMarks_choiceOf some fun row member node present =>
        induction row member node present ((below row member).2 node present)
      refine .of_anywhere _ (fun outer => shows_quantified quantifies outer shown) ?_
      rw [Node.marks_quantified quantifies]
      exact reads.quantifier quantifier.quantifierSign_mem quantifier.isGreedy
  | range _ _ _ _ first second =>
      have below := (Node.allKinds_mk.mp voiced).2
      obtain ⟨⟨left, shown_left, reads_left⟩, -⟩ := first (below _ (by simp))
      obtain ⟨⟨right, shown_right, reads_right⟩, -⟩ := second (below _ (by simp))
      refine .of_anywhere _ (fun outer => shows_range outer shown_left shown_right) ?_
      exact (Node.marks_range _ _).symm ▸ reads_left.range reads_right
  | negation _ _ _ induction =>
      obtain ⟨⟨text, shown, reads⟩, -⟩ :=
        induction ((Node.allKinds_mk.mp voiced).2 _ (List.mem_singleton.mpr rfl))
      refine .of_anywhere _ (fun outer => shows_negation outer shown) ?_
      exact (Node.marks_negation _).symm ▸ reads.sign_append (by simp)
  | negatedSet some each single =>
      obtain ⟨⟨text, shown, reads⟩, -⟩ := showsMarks_set no_tokens some each single
      refine .of_anywhere _ (fun outer => shows_negation outer shown) ?_
      exact (Node.marks_negation _).symm ▸ reads.sign_append (by simp)

end

end Listing
end Rulebook
