import Rulebook.Proofs.Listing.Ambiguity
import Rulebook.Proofs.Listing.Shown
import Rulebook.Proofs.Notation.Accepted

/-!
# How far a listing tells rules apart

Rules of one name that are listed alike show the same marks.  If moreover no operator of their
bodies holds another from which it cannot be told, their bodies differ at most in groups around
single nodes and in the way that sets are written.
-/

namespace Rulebook
namespace Listing

/-- The paragraph of a rule holds a text that shows the marks of the body. -/
theorem exists_render_readsBody {grammar : Grammar} (settings : Settings)
    (no_tokens : grammar.lexerRules = []) {rule : Rule} (shaped : Notation.IsBody rule.body)
    (voiced : rule.body.AllKinds (·.isSilent = false))
    (free : settings.breaksOf? rule.name = none) (state : State) :
    ∃ text reached, (rule.render (renderer grammar settings)).run state =
        .ok (paragraph settings.textColumnBudget rule.name text, reached) ∧
      ReadsBody text rule.body.marks := by
  obtain ⟨-, ⟨text, shown, reads⟩⟩ := showsMarks_of_isElement no_tokens shaped.isElement voiced
  refine ⟨text, { state with lineBreaks? := none }, ?_, reads⟩
  have entered : ((Descent.perform ((renderer grammar settings).enter rule)).run state :
      Except MissingOperand (Unit × State)) = .ok ((), { state with lineBreaks? := none }) := by
    rw [← free]
    rfl
  rw [Rule.render, Descent.run_bind_of_ok entered, Descent.run_bind_of_ok (shown _ rfl)]
  simp only [renderer, List.flatten_singleton]
  rfl

/-- Bodies that fill the same paragraph show the same marks. -/
theorem marks_eq_of_paragraph_eq {budget : Nat} {name : String} {text other : Piece}
    {row also : List Mark} (reads : ReadsBody text row) (other_reads : ReadsBody other also)
    (same : paragraph budget name text = paragraph budget name other) : row = also := by
  have laid_out : layout budget 2 text = layout budget 2 other := by
    simpa [paragraph] using same
  rw [← reads _ (resolves_layout budget 2 text), laid_out,
    other_reads _ (resolves_layout budget 2 other)]

/-- Two rules of the same name, read from texts without actions and conditions and rendered in a
grammar without lexer rules, are both listed.  If they are listed alike, they show the same marks,
and their bodies collapse to the same form unless an operator of one of them holds another from which
it cannot be told. -/
theorem collapsed_eq_of_render_eq {text otherText : String} {rules otherRules : RuleSet}
    (read : RuleSet.ofText text = .ok rules) (other_read : RuleSet.ofText otherText = .ok otherRules)
    {rule other : Rule} (listed : rule ∈ rules.rules) (other_listed : other ∈ otherRules.rules)
    (voiced : rule.body.AllKinds (·.isSilent = false))
    (other_voiced : other.body.AllKinds (·.isSilent = false)) (name : rule.name = other.name)
    {grammar : Grammar} (no_tokens : grammar.lexerRules = []) (state other_state : State) :
    ∃ shown reached other_shown other_reached,
      (rule.render (renderer grammar {})).run state = .ok (shown, reached) ∧
        (other.render (renderer grammar {})).run other_state = .ok (other_shown, other_reached) ∧
          (shown = other_shown →
            rule.body.marks = other.body.marks ∧
              (rule.body.collapsed.Unstacked → other.body.collapsed.Unstacked →
                rule.body.collapsed = other.body.collapsed)) := by
  have shaped := (RuleSet.readable_of_ofText read rule listed).body
  have other_shaped := (RuleSet.readable_of_ofText other_read other other_listed).body
  obtain ⟨body, reached, shown, reads⟩ :=
    exists_render_readsBody {} no_tokens shaped voiced rfl state
  obtain ⟨other_body, other_reached, other_shown, other_reads⟩ :=
    exists_render_readsBody {} no_tokens other_shaped other_voiced rfl other_state
  refine ⟨_, reached, _, other_reached, shown, other_shown, fun same => ?_⟩
  rw [name] at same
  have marks := marks_eq_of_paragraph_eq reads other_reads same
  refine ⟨marks, fun unstacked other_unstacked => ?_⟩
  refine (isCollapsed_of_isElement shaped.isElement voiced).eq_of_marks_eq unstacked
    (isCollapsed_of_isElement other_shaped.isElement other_voiced) other_unstacked ?_
  rw [Node.marks_collapsed, Node.marks_collapsed, marks]

/-- A rule `r` of a parser text. -/
def parserRule (elements : List Node) : Rule :=
  { name := "r", kind := .parser, line := 1, body := Node.block [Node.alternative elements] }

/-- A quantifier around elements. -/
def repeated (quantifier : NodeKind) (elements : List Node) : Node :=
  .mk quantifier [Node.block [Node.alternative elements]]

/-- Doubled parentheses do not show, and they are no difference. -/
theorem collapsed_eq_of_render_eq_doubled :
    (parserRule [repeated (.plus true) [Node.token "A", Node.token "B"]]).body.collapsed =
      (parserRule [repeated (.plus true)
        [Node.block [Node.alternative [Node.token "A", Node.token "B"]]]]).body.collapsed := by
  have read : RuleSet.ofText "parser grammar P \x7b r : (A B)+ ; \x7d" =
      .ok ⟨"P", .parser, [parserRule [repeated (.plus true) [Node.token "A", Node.token "B"]]]⟩ := by
    decide +kernel
  have other_read : RuleSet.ofText "parser grammar P \x7b r : ((A B))+ ; \x7d" =
      .ok ⟨"P", .parser, [parserRule [repeated (.plus true)
        [Node.block [Node.alternative [Node.token "A", Node.token "B"]]]]]⟩ := by
    decide +kernel
  obtain ⟨shown, reached, other_shown, other_reached, first, second, told⟩ :=
    collapsed_eq_of_render_eq read other_read List.mem_cons_self List.mem_cons_self
      (by decide +kernel) (by decide +kernel) rfl (rfl : ({} : Grammar).lexerRules = []) {} {}
  have same : shown = other_shown := by
    have first_shown : ((parserRule [repeated (.plus true) [Node.token "A", Node.token "B"]]).render
        (renderer {} {})).run {} = .ok ("r\n: (A B)+\n;\n\n".toList, {}) := by
      decide +kernel
    have second_shown : ((parserRule [repeated (.plus true)
        [Node.block [Node.alternative [Node.token "A", Node.token "B"]]]]).render
          (renderer {} {})).run {} = .ok ("r\n: (A B)+\n;\n\n".toList, {}) := by
      decide +kernel
    rw [first_shown] at first
    rw [second_shown] at second
    simp only [Except.ok.injEq, Prod.mk.injEq] at first second
    rw [← first.1, ← second.1]
  exact (told same).2 (by decide +kernel) (by decide +kernel)

/-- Rules can be listed alike although they match different texts: an optional node around a
repetition is listed like a reluctant repetition. -/
theorem not_forall_stripped_eq_of_render_eq :
    ¬ ∀ (text otherText : String) (rules otherRules : RuleSet),
      RuleSet.ofText text = .ok rules → RuleSet.ofText otherText = .ok otherRules →
        ∀ rule ∈ rules.rules, ∀ other ∈ otherRules.rules,
          rule.body.AllKinds (·.isSilent = false) → other.body.AllKinds (·.isSilent = false) →
            rule.name = other.name → ∀ grammar : Grammar, grammar.lexerRules = [] →
              ∀ (state : State) (shown : Piece) (reached other_reached : State),
                (rule.render (renderer grammar {})).run state = .ok (shown, reached) →
                  (other.render (renderer grammar {})).run state = .ok (shown, other_reached) →
                    rule.body.stripped (fun _ => false) NodeKind.isGroup =
                      other.body.stripped (fun _ => false) NodeKind.isGroup := by
  intro unambiguous
  have read : RuleSet.ofText "parser grammar P \x7b r : (A+)? ; \x7d" =
      .ok ⟨"P", .parser, [parserRule [repeated (.optional true)
        [repeated (.plus true) [Node.token "A"]]]]⟩ := by
    decide +kernel
  have other_read : RuleSet.ofText "parser grammar P \x7b r : A+? ; \x7d" =
      .ok ⟨"P", .parser, [parserRule [repeated (.plus false) [Node.token "A"]]]⟩ := by
    decide +kernel
  have same := unambiguous _ _ _ _ read other_read _ List.mem_cons_self _ List.mem_cons_self
    (by decide +kernel) (by decide +kernel) rfl {} rfl {} "r\n: A+?\n;\n\n".toList {} {}
    (by decide +kernel) (by decide +kernel)
  revert same
  decide +kernel

end Listing
end Rulebook
