import Mathlib.Data.List.Nodup
import Rulebook.Grammar.Inlining
import Rulebook.Proofs.Grammar.Arity
import Rulebook.Proofs.Grammar.Sections

/-!
# Names of rules

In a valid grammar a name finds the rule that has it.  The rendered rules keep the names and the order
of the declared ones.
-/

namespace Rulebook

@[simp]
theorem Settings.name_remainder (settings : Settings) (rule : Rule) :
    (settings.remainder rule).name = rule.name := by
  unfold remainder
  split <;> rfl

namespace Grammar

variable {grammar : Grammar} {settings : Settings} {kind : RuleKind}

theorem of_rule?_eq_some {name : String} {rule : Rule} (found : grammar.rule? kind name = some rule) :
    rule ∈ grammar.rules kind ∧ rule.name = name := by
  unfold rule? at found
  have named := List.find?_some found
  exact ⟨List.mem_of_find?_eq_some found, beq_iff_eq.mp named⟩

theorem isSome_rule? {name : String} :
    (grammar.rule? kind name).isSome = true ↔ ∃ rule ∈ grammar.rules kind, rule.name = name := by
  simp [rule?]

/-- In a valid grammar every rule is found by its name. -/
theorem rule?_name (valid : grammar.validate = .ok ()) {rule : Rule}
    (member : rule ∈ grammar.rules kind) : grammar.rule? kind rule.name = some rule := by
  obtain ⟨found, rule_found⟩ := Option.isSome_iff_exists.mp (isSome_rule?.mpr ⟨rule, member, rfl⟩)
  obtain ⟨present, same⟩ := of_rule?_eq_some rule_found
  rw [rule_found, List.inj_on_of_nodup_map (validate_eq_ok.mp valid kind).1 present member same]

/-- The rendered rules of a namespace keep the names and the order of declared rules. -/
theorem sublist_names_renderedRules (grammar : Grammar) (settings : Settings) (kind : RuleKind) :
    ((grammar.renderedRules settings kind).map Rule.name).Sublist
      ((grammar.rules kind).map Rule.name) := by
  rw [renderedRules_eq, List.map_map, Function.comp_def]
  simp only [Settings.name_remainder]
  exact List.filter_sublist.map Rule.name

theorem exists_renderedRule {name : String} :
    (∃ rule ∈ grammar.renderedRules settings kind, rule.name = name) ↔
      ∃ rule ∈ grammar.rules kind, rule.name = name ∧ settings.renders kind rule = true := by
  rw [renderedRules_eq]
  constructor
  · rintro ⟨_, member, rfl⟩
    obtain ⟨rule, present, rfl⟩ := List.mem_map.mp member
    obtain ⟨declared, renders⟩ := List.mem_filter.mp present
    exact ⟨rule, declared, (settings.name_remainder rule).symm, renders⟩
  · rintro ⟨rule, declared, rfl, renders⟩
    exact ⟨settings.remainder rule, List.mem_map_of_mem (List.mem_filter.mpr ⟨declared, renders⟩),
      settings.name_remainder rule⟩

/-- A token that is shown as its spelling has a lexer rule. -/
theorem exists_rule_of_inlineSpelling? {token : String}
    (inlined : (grammar.inlineSpelling? settings token).isSome = true) :
    ∃ rule ∈ grammar.lexerRules, rule.name = token := by
  unfold inlineSpelling? at inlined
  split at inlined
  · simp at inlined
  · exact isSome_rule?.mp (Option.isSome_of_isSome_bind inlined)

end Grammar
end Rulebook
