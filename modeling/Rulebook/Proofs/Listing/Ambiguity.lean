import Rulebook.Proofs.Grammar.Collapse
import Rulebook.Proofs.Listing.Marks

/-!
# What marks tell of a body

The marks of a body are those of its collapsed form.  They determine the collapsed form if no
operator of it holds another from which it cannot be told.
-/

namespace Rulebook

/-! ### Marks of collapsed forms -/

namespace Node

theorem marks_regroup (kind : NodeKind) (children : List Node) :
    (regroup kind children).marks = (mk kind children).marks := by
  rcases children with _ | ⟨node, _ | ⟨second, later⟩⟩
  · rfl
  · rw [regroup]
    split
    · cases kind with
      | alternative | block | set => simp [marks_mk, NodeKind.marks]
      | _ => simp [NodeKind.isGroup] at *
    · rfl
  · rfl

theorem marks_mk_congr {kind : NodeKind} {children others : List Node}
    (same : children.map marks = others.map marks) :
    (mk kind children).marks = (mk kind others).marks := by
  rw [marks_mk, marks_mk, same]

/-- Collapsing does not change the marks of a body. -/
theorem marks_collapsed (body : Node) : body.collapsed.marks = body.marks := by
  induction body with
  | mk kind children induction =>
      have below : (children.map collapsed).map marks = children.map marks := by
        rw [List.map_map]
        exact List.map_congr_left induction
      rw [collapsed_mk, marks_regroup]
      split
      · rename_i set
        rw [set, ← marks_mk_congr below, marks_choice rfl, marks_choice rfl]
      · exact marks_mk_congr below

end Node

/-- Is a row of marks empty or a single mark that is no sign? -/
def IsAtom (row : List Mark) : Prop :=
  row = [] ∨ ∃ mark, row = [mark] ∧ ∀ symbol, mark ≠ .sign symbol

/-- A collapsed form that is no operator shows at most one mark. -/
theorem IsCollapsed.isAtom {node : Node} (collapsed : IsCollapsed node)
    (plain : node.kind.isAtomic = true) : IsAtom node.marks := by
  cases collapsed with
  | literal value => exact .inr ⟨_, Node.marks_literal value, nofun⟩
  | charSet body => exact .inr ⟨_, Node.marks_charSet body, nofun⟩
  | reference name => exact .inr ⟨_, Node.marks_reference name, nofun⟩
  | empty => exact .inl (Node.marks_alternative [])
  | @alternative nodes several =>
      rcases nodes with _ | ⟨first, _ | ⟨second, later⟩⟩
      · simp at several
      · simp at several
      · exact .inr ⟨_, Node.marks_alternative _, nofun⟩
  | @block nodes several =>
      rcases nodes with _ | ⟨first, _ | ⟨second, later⟩⟩
      · simp at several
      · simp at several
      · exact .inr ⟨_, Node.marks_choice rfl _, nofun⟩
  | @quantified quantifier _ quantifies =>
      rw [Node.kind_mk] at plain
      cases quantifier <;> simp [NodeKind.isQuantifier, NodeKind.isAtomic] at quantifies plain
  | negation => simp [NodeKind.isAtomic] at plain
  | range => simp [NodeKind.isAtomic] at plain

/-! ### Trailing signs -/

/-- Does a row of marks end with the sign of a quantifier? -/
def EndsQuantified (row : List Mark) : Prop :=
  ∃ symbol ∈ ['?', '+', '*'], row.getLast? = some (.sign symbol)

theorem IsAtom.not_endsQuantified {row : List Mark} (atom : IsAtom row) : ¬ EndsQuantified row := by
  rintro ⟨symbol, -, last⟩
  rcases atom with rfl | ⟨mark, rfl, no_sign⟩
  · simp at last
  · exact no_sign symbol (by simpa using last)

theorem EndsQuantified.of_negation {row : List Mark} (ends : EndsQuantified (.sign '~' :: row)) :
    EndsQuantified row := by
  obtain ⟨symbol, quantifies, last⟩ := ends
  refine ⟨symbol, quantifies, ?_⟩
  rw [List.getLast?_cons] at last
  cases found : row.getLast? with
  | none =>
      rw [found] at last
      simp only [Option.getD_none, Option.some.injEq, Mark.sign.injEq] at last
      subst last
      simp at quantifies
  | some mark => simpa [found] using last

theorem EndsQuantified.of_range {first second : List Mark}
    (ends : EndsQuantified ([Mark.sign '.', Mark.sign '.'].intercalate [first, second])) :
    EndsQuantified second := by
  obtain ⟨symbol, quantifies, last⟩ := ends
  refine ⟨symbol, quantifies, ?_⟩
  have shape : [Mark.sign '.', Mark.sign '.'].intercalate [first, second] =
      first ++ ([.sign '.', .sign '.'] ++ second) := by
    simp [List.intercalate]
  rw [shape, List.getLast?_append, List.getLast?_append] at last
  cases found : second.getLast? with
  | none =>
      rw [found] at last
      simp only [Option.none_or, List.getLast?_cons_cons, List.getLast?_singleton, Option.some_or,
        Option.some.injEq, Mark.sign.injEq] at last
      subst last
      simp at quantifies
  | some mark => simpa [found] using last

/-- Only quantifiers end with the sign of a quantifier. -/
theorem IsCollapsed.isQuantifier_of_ends {node : Node} (collapsed : IsCollapsed node)
    (unstacked : node.Unstacked) (ends : EndsQuantified node.marks) :
    node.kind.isQuantifier = true := by
  by_cases plain : node.kind.isAtomic = true
  · exact ((collapsed.isAtom plain).not_endsQuantified ends).elim
  · induction collapsed with
    | quantified quantifies => exact quantifies
    | @negation operand inner induction =>
        obtain ⟨here, below⟩ := Node.unstacked_single.mp unstacked
        have no_quantifier : operand.kind.isQuantifier = false := by
          simpa [NodeKind.mayHold] using here
        rw [Node.marks_negation] at ends
        by_cases plain_operand : operand.kind.isAtomic = true
        · exact ((inner.isAtom plain_operand).not_endsQuantified ends.of_negation).elim
        · have quantifies := induction below ends.of_negation plain_operand
          rw [no_quantifier] at quantifies
          exact (Bool.false_ne_true quantifies).elim
    | @range left right _ second _ induction =>
        obtain ⟨⟨-, no_quantifier⟩, -, below⟩ := Node.unstacked_range.mp unstacked
        rw [Node.marks_range] at ends
        by_cases plain_right : right.kind.isAtomic = true
        · exact ((second.isAtom plain_right).not_endsQuantified ends.of_range).elim
        · have quantifies := induction below ends.of_range plain_right
          rw [no_quantifier] at quantifies
          exact (Bool.false_ne_true quantifies).elim
    | reference name => exact (plain (Notation.isAtomic_reference name)).elim
    | _ => exact (plain rfl).elim

theorem NodeKind.quantifierSign_mem_of_isQuantifier {kind : NodeKind}
    (quantifies : kind.isQuantifier = true) : kind.quantifierSign ∈ ['?', '+', '*'] := by
  cases kind <;> simp [isQuantifier, quantifierSign] at quantifies ⊢

/-- A quantifier is told by its sign and its greediness. -/
theorem NodeKind.eq_of_quantifierSign {first second : NodeKind}
    (quantifies : first.isQuantifier = true) (also : second.isQuantifier = true)
    (sign : first.quantifierSign = second.quantifierSign)
    (greedy : first.isGreedy = second.isGreedy) : first = second := by
  cases first <;> cases second <;>
    simp [isQuantifier, quantifierSign, isGreedy] at quantifies also sign greedy ⊢ <;> exact greedy

/-- An optional node holds no greedy quantifier. -/
theorem NodeKind.isGreedy_eq_false_of_mayHold {inner : NodeKind}
    (quantifies : inner.isQuantifier = true) (holds : (optional true).mayHold true inner = true) :
    inner.isGreedy = false := by
  simpa [mayHold, quantifies] using holds

theorem NodeKind.mayHold_of_question {kind inner : NodeKind} (quantifies : kind.isQuantifier = true)
    (question : kind.quantifierSign = '?') (holds : kind.mayHold true inner = true) :
    (optional true).mayHold true inner = true := by
  cases kind with
  | optional => exact holds
  | plus | star => simp [quantifierSign] at question
  | _ => simp [isQuantifier] at quantifies

/-- The last sign of a quantifier cannot be split off if the rest shows another body: a question
mark behind it would be read as its own. -/
theorem IsCollapsed.marks_ne_append_sign {first second : Node} {symbol : Char}
    (collapsed : IsCollapsed first) (unstacked : first.Unstacked)
    (lazy : (NodeKind.optional true).mayHold true first.kind = true) (other : IsCollapsed second)
    (other_unstacked : second.Unstacked)
    (other_lazy : symbol = '?' → (NodeKind.optional true).mayHold true second.kind = true)
    (quantifies : symbol ∈ ['?', '+', '*']) :
    first.marks ≠ second.marks ++ [.sign symbol] := by
  intro same
  induction length : first.marks.length using Nat.strong_induction_on
    generalizing first second symbol with
  | _ count induction =>
      have ends : EndsQuantified first.marks := ⟨symbol, quantifies, by simp [same]⟩
      have quantified := collapsed.isQuantifier_of_ends unstacked ends
      have reluctant := NodeKind.isGreedy_eq_false_of_mayHold quantified lazy
      cases collapsed with
      | @quantified quantifier operand _ inner =>
          obtain ⟨here, below⟩ := Node.unstacked_single.mp unstacked
          rw [Node.kind_mk] at quantified reluctant
          rw [Node.marks_quantified quantified, reluctant] at same length
          have shape : operand.marks ++ [.sign quantifier.quantifierSign] ++ [.sign '?'] =
              second.marks ++ [.sign symbol] := by
            simpa [Mark.quantifier] using same
          obtain ⟨front, last⟩ := List.append_inj' shape rfl
          have question : symbol = '?' := by simpa using last.symm
          refine induction second.marks.length ?_ other other_unstacked (other_lazy question) inner
            below ?_
            (NodeKind.quantifierSign_mem_of_isQuantifier quantified) front.symm rfl
          · rw [← length, ← front]
            simp [Mark.quantifier]
          · intro sign
            exact NodeKind.mayHold_of_question quantified sign here
      | reference name =>
          have atom := (IsCollapsed.reference name).isAtom (Notation.isAtomic_reference name)
          exact atom.not_endsQuantified ends
      | _ =>
          simp [NodeKind.isQuantifier, Node.literal, Node.leaf, Node.alternative, Node.block]
            at quantified

/-! ### Collapsed forms from their marks -/

theorem Node.marks_alternative_several {nodes : List Node} (several : 1 < nodes.length) :
    (Node.alternative nodes).marks = [.sequence (nodes.map Node.marks)] := by
  rcases nodes with _ | ⟨first, _ | ⟨second, later⟩⟩
  · simp at several
  · simp at several
  · exact Node.marks_alternative _

theorem Node.marks_block_several {nodes : List Node} (several : 1 < nodes.length) :
    (Node.block nodes).marks = [.choice (nodes.map Node.marks)] := by
  rcases nodes with _ | ⟨first, _ | ⟨second, later⟩⟩
  · simp at several
  · simp at several
  · exact Node.marks_choice rfl _

theorem IsAtom.sign_not_mem {row : List Mark} (atom : IsAtom row) (symbol : Char) :
    .sign symbol ∉ row := by
  rcases atom with rfl | ⟨mark, rfl, no_sign⟩
  · simp
  · simpa using (no_sign symbol).symm

/-- Operators, and only they, show signs. -/
theorem IsCollapsed.isAtomic_eq_false_iff {node : Node} (collapsed : IsCollapsed node) :
    node.kind.isAtomic = false ↔ ∃ symbol, .sign symbol ∈ node.marks := by
  constructor
  · intro operates
    cases collapsed with
    | @quantified quantifier _ quantifies =>
        refine ⟨quantifier.quantifierSign, ?_⟩
        rw [Node.marks_quantified quantifies]
        cases quantifier.isGreedy <;> simp [Mark.quantifier]
    | negation => exact ⟨'~', by simp [Node.marks_negation]⟩
    | range => exact ⟨'.', by simp [Node.marks_range, List.intercalate]⟩
    | reference name => simp [Notation.isAtomic_reference] at operates
    | _ =>
        simp [NodeKind.isAtomic, Node.literal, Node.leaf, Node.alternative, Node.block]
          at operates
  · rintro ⟨symbol, shown⟩
    by_contra plain
    exact (collapsed.isAtom (eq_true_of_ne_false plain)).sign_not_mem symbol shown

theorem IsCollapsed.isAtomic_eq {first second : Node} (collapsed : IsCollapsed first)
    (other : IsCollapsed second) (same : first.marks = second.marks) :
    first.kind.isAtomic = second.kind.isAtomic := by
  rw [← Bool.not_inj_iff, Bool.eq_iff_iff, Bool.not_eq_true', Bool.not_eq_true',
    collapsed.isAtomic_eq_false_iff, other.isAtomic_eq_false_iff, same]

/-- Quantifiers, and only they, end with the sign of a quantifier. -/
theorem IsCollapsed.isQuantifier_iff {node : Node} (collapsed : IsCollapsed node)
    (unstacked : node.Unstacked) : node.kind.isQuantifier = true ↔ EndsQuantified node.marks := by
  refine ⟨fun quantified => ?_, collapsed.isQuantifier_of_ends unstacked⟩
  cases collapsed with
  | @quantified quantifier _ quantifies =>
      rw [Node.marks_quantified quantifies]
      cases quantifier.isGreedy with
      | true =>
          exact ⟨_, NodeKind.quantifierSign_mem_of_isQuantifier quantifies,
            by simp [Mark.quantifier]⟩
      | false => exact ⟨'?', by simp, by simp [Mark.quantifier]⟩
  | reference name =>
      simp [Notation.isQuantifier_reference] at quantified
  | _ =>
      simp [NodeKind.isQuantifier, Node.literal, Node.leaf, Node.alternative, Node.block]
        at quantified

theorem IsCollapsed.isQuantifier_eq {first second : Node} (collapsed : IsCollapsed first)
    (unstacked : first.Unstacked) (other : IsCollapsed second) (other_unstacked : second.Unstacked)
    (same : first.marks = second.marks) :
    first.kind.isQuantifier = second.kind.isQuantifier := by
  rw [Bool.eq_iff_iff, collapsed.isQuantifier_iff unstacked,
    other.isQuantifier_iff other_unstacked, same]

/-- Nodes that are told by their marks one by one are told by the rows of marks. -/
theorem eq_of_map_marks_eq {first second : List Node}
    (each : ∀ node ∈ first, ∀ other ∈ second, node.marks = other.marks → node = other)
    (same : first.map Node.marks = second.map Node.marks) : first = second := by
  induction first generalizing second with
  | nil => simpa using same.symm
  | cons node nodes induction =>
      cases second with
      | nil => simp at same
      | cons other others =>
          simp only [List.map_cons, List.cons.injEq] at same
          rw [each node List.mem_cons_self other List.mem_cons_self same.1,
            induction (fun node member other present =>
              each node (List.mem_cons_of_mem _ member) other (List.mem_cons_of_mem _ present)) same.2]

/-- The ends of a range are told by the row of the range. -/
theorem IsAtom.range_inj {left right left' right' : List Mark} (atom : IsAtom left)
    (atom' : IsAtom left')
    (same : [Mark.sign '.', Mark.sign '.'].intercalate [left, right] =
      [Mark.sign '.', Mark.sign '.'].intercalate [left', right']) : left = left' ∧ right = right' := by
  simp only [List.intercalate, List.intersperse_cons_cons, List.intersperse_singleton,
    List.flatten_cons, List.flatten_nil, List.append_nil] at same
  rcases atom with rfl | ⟨mark, rfl, no_sign⟩
  · rcases atom' with rfl | ⟨mark', rfl, also_no_sign⟩
    · simpa using same
    · simp only [List.nil_append, List.cons_append, List.cons.injEq] at same
      exact (also_no_sign '.' same.1.symm).elim
  · rcases atom' with rfl | ⟨mark', rfl, also_no_sign⟩
    · simp only [List.nil_append, List.cons_append, List.cons.injEq] at same
      exact (no_sign '.' same.1).elim
    · simpa using same

/-- Quantifiers that show the same marks hold operands that do, and are the same. -/
theorem eq_of_quantified_marks_eq {first second : NodeKind} {operand other : Node}
    (quantifies : first.isQuantifier = true) (also : second.isQuantifier = true)
    (collapsed : IsCollapsed operand) (unstacked : (Node.mk first [operand]).Unstacked)
    (other_collapsed : IsCollapsed other) (other_unstacked : (Node.mk second [other]).Unstacked)
    (same : (Node.mk first [operand]).marks = (Node.mk second [other]).marks) :
    first = second ∧ operand.marks = other.marks := by
  obtain ⟨here, below⟩ := Node.unstacked_single.mp unstacked
  obtain ⟨also_here, also_below⟩ := Node.unstacked_single.mp other_unstacked
  have first_sign := NodeKind.quantifierSign_mem_of_isQuantifier quantifies
  have second_sign := NodeKind.quantifierSign_mem_of_isQuantifier also
  rw [Node.marks_quantified quantifies, Node.marks_quantified also] at same
  cases greedy : first.isGreedy <;> cases other_greedy : second.isGreedy <;>
    simp only [greedy, other_greedy, Mark.quantifier, if_true, Bool.false_eq_true, if_false] at same
  · obtain ⟨rows, signs⟩ := List.append_inj' same rfl
    simp only [List.cons.injEq, Mark.sign.injEq, and_true] at signs
    exact ⟨NodeKind.eq_of_quantifierSign quantifies also signs (greedy.trans other_greedy.symm), rows⟩
  · have shape : operand.marks ++ [.sign first.quantifierSign] ++ [.sign '?'] =
        other.marks ++ [.sign second.quantifierSign] := by
      simpa using same
    obtain ⟨rows, signs⟩ := List.append_inj' shape rfl
    simp only [List.cons.injEq, Mark.sign.injEq, and_true] at signs
    exact (other_collapsed.marks_ne_append_sign also_below
      (NodeKind.mayHold_of_question also signs.symm also_here) collapsed below
      (fun question => NodeKind.mayHold_of_question quantifies question here) first_sign
      rows.symm).elim
  · have shape : operand.marks ++ [.sign first.quantifierSign] =
        other.marks ++ [.sign second.quantifierSign] ++ [.sign '?'] := by
      simpa using same
    obtain ⟨rows, signs⟩ := List.append_inj' shape rfl
    simp only [List.cons.injEq, Mark.sign.injEq, and_true] at signs
    exact (collapsed.marks_ne_append_sign below
      (NodeKind.mayHold_of_question quantifies signs here) other_collapsed also_below
      (fun question => NodeKind.mayHold_of_question also question also_here) second_sign
      rows).elim
  · obtain ⟨rows, signs⟩ := List.append_inj' same rfl
    simp only [List.cons.injEq, Mark.sign.injEq, and_true] at signs
    exact ⟨NodeKind.eq_of_quantifierSign quantifies also signs (greedy.trans other_greedy.symm), rows⟩

/-- The collapsed forms that are no operators. -/
theorem IsCollapsed.atom_cases {node : Node} (collapsed : IsCollapsed node)
    (plain : node.kind.isAtomic = true) :
    (∃ value, node = Node.literal value) ∨ (∃ body, node = Node.leaf (.charSet body)) ∨
      (∃ name, node = Node.reference name) ∨ node = Node.alternative [] ∨
        (∃ nodes, 1 < nodes.length ∧ (∀ child ∈ nodes, IsCollapsed child) ∧
          node = Node.alternative nodes) ∨
        ∃ nodes, 1 < nodes.length ∧ (∀ child ∈ nodes, IsCollapsed child) ∧
          node = Node.block nodes := by
  cases collapsed with
  | literal value => exact .inl ⟨value, rfl⟩
  | charSet body => exact .inr (.inl ⟨body, rfl⟩)
  | reference name => exact .inr (.inr (.inl ⟨name, rfl⟩))
  | empty => exact .inr (.inr (.inr (.inl rfl)))
  | alternative several each => exact .inr (.inr (.inr (.inr (.inl ⟨_, several, each, rfl⟩))))
  | block several each => exact .inr (.inr (.inr (.inr (.inr ⟨_, several, each, rfl⟩))))
  | @quantified quantifier _ quantifies =>
      rw [Node.kind_mk] at plain
      cases quantifier <;> simp [NodeKind.isQuantifier, NodeKind.isAtomic] at quantifies plain
  | negation | range => simp [NodeKind.isAtomic] at plain

/-- The single mark of a form that is no operator tells the form, if the marks of its children tell
them. -/
theorem IsCollapsed.eq_of_atom_marks_eq {first second : Node} (collapsed : IsCollapsed first)
    (plain : first.kind.isAtomic = true) (other : IsCollapsed second)
    (other_plain : second.kind.isAtomic = true)
    (children : ∀ child ∈ first.children, ∀ other ∈ second.children,
      child.marks = other.marks → child = other)
    (same : first.marks = second.marks) : first = second := by
  rcases collapsed.atom_cases plain with ⟨value, rfl⟩ | ⟨body, rfl⟩ | ⟨name, rfl⟩ | rfl |
      ⟨nodes, several, -, rfl⟩ | ⟨nodes, several, -, rfl⟩ <;>
    rcases other.atom_cases other_plain with ⟨text, rfl⟩ | ⟨set, rfl⟩ | ⟨label, rfl⟩ | rfl |
      ⟨others, also_several, -, rfl⟩ | ⟨others, also_several, -, rfl⟩ <;>
    simp [Node.marks_literal, Node.marks_charSet, Node.marks_reference, Node.marks_alternative [],
      Node.marks_alternative_several, Node.marks_block_several, *] at same
  · rw [String.toList_inj.mp same]
  · rw [String.toList_inj.mp same]
  · rw [String.toList_inj.mp same]
  · rfl
  · exact congrArg Node.alternative (eq_of_map_marks_eq children same)
  · exact congrArg Node.block (eq_of_map_marks_eq children same)

theorem IsCollapsed.children {node : Node} (collapsed : IsCollapsed node) :
    ∀ child ∈ node.children, IsCollapsed child := by
  cases collapsed with
  | alternative _ each => exact each
  | block _ each => exact each
  | quantified _ inner => simpa using inner
  | negation inner => simpa using inner
  | range first second => simpa using ⟨first, second⟩
  | reference name =>
      unfold Node.reference
      cases RuleKind.ofName name <;> simp [Node.token, Node.leaf]
  | _ => simp [Node.literal, Node.leaf, Node.alternative]

/-- No range shows a negation sign first. -/
theorem IsAtom.negation_ne_range {left : List Mark} (atom : IsAtom left) (row right : List Mark) :
    .sign '~' :: row ≠ [Mark.sign '.', Mark.sign '.'].intercalate [left, right] := by
  intro same
  rcases atom with rfl | ⟨mark, rfl, no_sign⟩
  · simp [List.intercalate] at same
  · simp only [List.intercalate, List.intersperse_cons_cons, List.flatten_cons, List.cons_append,
      List.cons.injEq] at same
    exact no_sign '~' same.1.symm

theorem IsCollapsed.isAtom_left {left right : Node}
    (collapsed : IsCollapsed (.mk .range [left, right]))
    (unstacked : (Node.mk .range [left, right]).Unstacked) : IsAtom left.marks := by
  obtain ⟨⟨plain, -⟩, -⟩ := Node.unstacked_range.mp unstacked
  exact (collapsed.children left (by simp)).isAtom plain

/-- The collapsed forms that are operators. -/
theorem IsCollapsed.operator_cases {node : Node} (collapsed : IsCollapsed node)
    (operates : node.kind.isAtomic = false) :
    (∃ quantifier operand, quantifier.isQuantifier = true ∧ node = .mk quantifier [operand]) ∨
      (∃ operand, node = .mk .negation [operand]) ∨ ∃ left right, node = .mk .range [left, right] := by
  cases collapsed with
  | quantified quantifies => exact .inl ⟨_, _, quantifies, rfl⟩
  | negation => exact .inr (.inl ⟨_, rfl⟩)
  | range => exact .inr (.inr ⟨_, _, rfl⟩)
  | reference name => simp [Notation.isAtomic_reference] at operates
  | _ =>
      simp [NodeKind.isAtomic, Node.literal, Node.leaf, Node.alternative, Node.block] at operates

/-- The marks of an operator tell the operator, if the marks of its operands tell them. -/
theorem IsCollapsed.eq_of_operator_marks_eq {first second : Node} (collapsed : IsCollapsed first)
    (operates : first.kind.isAtomic = false) (unstacked : first.Unstacked)
    (other : IsCollapsed second) (other_operates : second.kind.isAtomic = false)
    (other_unstacked : second.Unstacked)
    (children : ∀ child ∈ first.children, ∀ other ∈ second.children,
      child.marks = other.marks → child = other)
    (same : first.marks = second.marks) : first = second := by
  have quantifiers := collapsed.isQuantifier_eq unstacked other other_unstacked same
  rcases collapsed.operator_cases operates with
      ⟨quantifier, operand, quantifies, rfl⟩ | ⟨operand, rfl⟩ | ⟨left, right, rfl⟩
  · rcases other.operator_cases other_operates with
        ⟨also, other_operand, also_quantifies, rfl⟩ | ⟨other_operand, rfl⟩ | ⟨_, _, rfl⟩
    · obtain ⟨rfl, rows⟩ := eq_of_quantified_marks_eq quantifies also_quantifies
        (collapsed.children operand (by simp)) unstacked
        (other.children other_operand (by simp)) other_unstacked same
      rw [children operand (by simp) other_operand (by simp) rows]
    · exact absurd (quantifiers.symm.trans quantifies) (by simp [NodeKind.isQuantifier])
    · exact absurd (quantifiers.symm.trans quantifies) (by simp [NodeKind.isQuantifier])
  · rcases other.operator_cases other_operates with
        ⟨also, _, also_quantifies, rfl⟩ | ⟨other_operand, rfl⟩ | ⟨left, right, rfl⟩
    · exact absurd (quantifiers.trans also_quantifies) (by simp [NodeKind.isQuantifier])
    · simp only [Node.marks_negation, List.cons.injEq, true_and] at same
      rw [children operand (by simp) other_operand (by simp) same]
    · rw [Node.marks_negation, Node.marks_range] at same
      exact ((other.isAtom_left other_unstacked).negation_ne_range _ _ same).elim
  · rcases other.operator_cases other_operates with
        ⟨also, _, also_quantifies, rfl⟩ | ⟨operand, rfl⟩ | ⟨other_left, other_right, rfl⟩
    · exact absurd (quantifiers.trans also_quantifies) (by simp [NodeKind.isQuantifier])
    · rw [Node.marks_negation, Node.marks_range] at same
      exact ((collapsed.isAtom_left unstacked).negation_ne_range _ _ same.symm).elim
    · rw [Node.marks_range, Node.marks_range] at same
      obtain ⟨lefts, rights⟩ :=
        (collapsed.isAtom_left unstacked).range_inj (other.isAtom_left other_unstacked) same
      rw [children left (by simp) other_left (by simp) lefts,
        children right (by simp) other_right (by simp) rights]

/-- Collapsed forms whose operators can be told apart are told by their marks. -/
theorem IsCollapsed.eq_of_marks_eq {first second : Node} (collapsed : IsCollapsed first)
    (unstacked : first.Unstacked) (other : IsCollapsed second) (other_unstacked : second.Unstacked)
    (same : first.marks = second.marks) : first = second := by
  induction first generalizing second with
  | mk kind children induction =>
      have operators := collapsed.isAtomic_eq other same
      have below := (Node.unstacked_mk.mp unstacked).2
      obtain ⟨second_kind, others⟩ := second
      have also_below := (Node.unstacked_mk.mp other_unstacked).2
      have inner : ∀ child ∈ children, ∀ second ∈ others, child.marks = second.marks →
          child = second := fun child member second present shown =>
        induction child member (collapsed.children child member) (below child member)
          (other.children second present) (also_below second present) shown
      cases plain : kind.isAtomic with
      | true =>
          exact collapsed.eq_of_atom_marks_eq plain other (operators.symm.trans plain) inner same
      | false =>
          exact collapsed.eq_of_operator_marks_eq plain unstacked other
            (operators.symm.trans plain) other_unstacked inner same

end Rulebook
