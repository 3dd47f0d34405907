import Rulebook.Proofs.Catalogue.Reading
import Rulebook.Proofs.Grammar.Names

/-!
# Users in a catalogue

The declaration of every rule that has an item lists the rules with an item that refer to it, in the
order of their items, wherever these stand.
-/

namespace Rulebook

theorem eraseDups_eq_singleton {names : List String} {key : String} (present : key ∈ names)
    (only : ∀ name ∈ names, name = key) : names.eraseDups = [key] := by
  cases names with
  | nil => exact absurd present List.not_mem_nil
  | cons name later =>
      rw [List.forall_mem_cons] at only
      have rest : (later.filter fun other => !other == name) = [] := by
        refine List.filter_eq_nil_iff.mpr fun other member => ?_
        simp [only.1, only.2 other member]
      rw [List.eraseDups_cons, rest, only.1]
      rfl

/-- Of values that give their own keys again and again, the keys remain. -/
theorem eraseDups_flatMap {Value : Type} {key : Value → String} {found : Value → List String}
    {shows : Value → Prop} [DecidablePred shows] {values : List Value}
    (only : ∀ value ∈ values, ∀ name, name ∈ found value ↔ name = key value ∧ shows value)
    (distinct : (values.map key).Nodup) :
    (values.flatMap found).eraseDups = (values.filter fun value => shows value).map key := by
  induction values with
  | nil => rfl
  | cons value values induction =>
      rw [List.forall_mem_cons] at only
      rw [List.map_cons, List.nodup_cons] at distinct
      -- The keys are distinct, so what is found later never repeats the first key.
      have apart : (values.flatMap found).removeAll (found value) = values.flatMap found := by
        refine List.filter_eq_self.mpr fun name member => ?_
        obtain ⟨other, present, inside⟩ := List.mem_flatMap.mp member
        have own := ((only.2 other present name).mp inside).1
        suffices name ∉ found value by simpa
        intro also
        apply distinct.1
        rw [← ((only.1 name).mp also).1, own]
        exact List.mem_map_of_mem present
      rw [List.flatMap_cons, List.eraseDups_append, apart, induction only.2 distinct.2,
        List.filter_cons]
      by_cases shown : shows value
      · have own : (found value).eraseDups = [key value] :=
          eraseDups_eq_singleton ((only.1 (key value)).mpr ⟨rfl, shown⟩)
            fun name member => ((only.1 name).mp member).1
        simp [own, shown]
      · have nothing : found value = [] := by
          refine List.eq_nil_iff_forall_not_mem.mpr fun name member => ?_
          exact shown ((only.1 name).mp member).2
        simp [nothing, shown]

namespace Grammar

variable {grammar : Grammar} {settings : Settings}

/-- If no parser rule shares its name with a lexer rule, no two items share a name. -/
theorem nodup_itemRules (valid : grammar.validate = .ok ())
    (separate : ∀ rule ∈ grammar.parserRules, ∀ other ∈ grammar.lexerRules, rule.name ≠ other.name)
    (settings : Settings) : ((grammar.itemRules settings).map Rule.name).Nodup := by
  have part (kind : RuleKind) (keep : Rule → Bool) :
      (((grammar.renderedRules settings kind).filter keep).map Rule.name).Sublist
        ((grammar.rules kind).map Rule.name) :=
    (List.filter_sublist.map Rule.name).trans (sublist_names_renderedRules grammar settings kind)
  rw [itemRules, List.map_append, List.nodup_append]
  refine ⟨?_, ?_, ?_⟩
  · exact (validate_eq_ok.mp valid .parser).1.sublist (part .parser _)
  · exact (validate_eq_ok.mp valid .lexer).1.sublist (part .lexer _)
  · intro name parser other lexer
    obtain ⟨rule, declared, rfl⟩ := List.mem_map.mp ((part .parser _).subset parser)
    obtain ⟨counterpart, present, rfl⟩ := List.mem_map.mp ((part .lexer _).subset lexer)
    exact separate rule declared counterpart present

/-- A token with the name of a rule that has an item is not shown as its spelling in another, unless
a rule of the other namespace has the name too. -/
theorem inlineSpelling?_eq_none_of_mem_itemRules (valid : grammar.validate = .ok ())
    (separate : ∀ rule ∈ grammar.parserRules, ∀ other ∈ grammar.lexerRules, rule.name ≠ other.name)
    {rule user : Rule} (listed : rule ∈ grammar.itemRules settings)
    (rendered : user ∈ grammar.allRendered settings)
    (refers : .terminal (.token rule.name) ∈ user.body.tips) :
    grammar.inlineSpelling? settings rule.name = none := by
  have complete := hasOperands_of_mem_allRendered valid rendered
  rw [← Option.not_isSome_iff_eq_none]
  intro inlined
  rcases List.mem_append.mp listed with parser | lexer
  · obtain ⟨declared, present, same⟩ := List.mem_map.mp
      ((sublist_names_renderedRules grammar settings .parser).subset
        (List.mem_map_of_mem (List.mem_filter.mp parser).1))
    obtain ⟨counterpart, found, named⟩ := exists_rule_of_inlineSpelling? inlined
    exact separate declared present counterpart found (same.trans named.symm)
  · have unabsorbed := (List.mem_filter.mp lexer).2
    rw [decide_eq_true_eq] at unabsorbed
    exact unabsorbed ⟨inlined, user, rendered, (Node.leaf_mem_preorder complete rfl).mpr refers⟩

end Grammar

/-- The rules with an item that refer to a name, in the order of their items. -/
def Grammar.users (grammar : Grammar) (settings : Settings) (name : String) : List String :=
  ((grammar.itemRules settings).filter fun user => name ∈ user.body.referencedNames).map Rule.name

namespace Catalogue

/-- In a valid grammar whose parser rules and lexer rules have different names, the catalogue is
written, with one declaration for each item.  The declaration of a rule holds one list of users if a
rule with an item refers to it, and nothing otherwise.  The list names exactly these rules, once each
and in the order of their items. -/
theorem users_document {grammar : Grammar} (valid : grammar.validate = .ok ())
    (separate : ∀ rule ∈ grammar.parserRules, ∀ other ∈ grammar.lexerRules, rule.name ≠ other.name)
    (settings : Settings) (docs : Docs) :
    ∃ document tree, Catalogue.document grammar settings docs = .ok document ∧
      document.treeAt? Document.root = some tree ∧
        tree.markup.placements.map Prod.snd =
            (grammar.itemRules settings).map (fun rule => some rule.name) ∧
          (Markup.declarations [tree.markup]).map Prod.fst =
              (grammar.itemRules settings).map Rule.name ∧
            ∀ name contents, (name, contents) ∈ Markup.declarations [tree.markup] →
              (grammar.users settings name).Nodup ∧
                (grammar.users settings name = [] → contents = []) ∧
                  (grammar.users settings name ≠ [] → contents = [.element "usages" []
                    ((grammar.users settings name).map fun user =>
                      .element "declaration" [] [.text user])]) := by
  obtain ⟨_, _, _, _, rendered⟩ := exists_isRendered valid settings
  obtain ⟨document, tree, written, read, same⟩ := rendered.exists_tree valid docs
  have distinct := Grammar.nodup_itemRules valid separate settings
  refine ⟨document, tree, written, read, same.items, same.declared, fun name contents member => ?_⟩
  rw [same.declarations distinct] at member
  obtain ⟨rule, listed, told⟩ := List.mem_map.mp member
  obtain ⟨rfl, list⟩ := Prod.mk.inj told
  have noted : ((grammar.itemRules settings).flatMap fun user =>
      (bodyLinks grammar settings user.name user.body.tips).flatMap
        (Step.usersOf rule.name)).eraseDups = grammar.users settings rule.name := by
    refine eraseDups_flatMap (fun user present name => ?_) distinct
    rw [mem_usersOf_bodyLinks, Node.mem_referencedNames]
    refine and_congr_right fun _ => ?_
    constructor
    · rintro (inside | ⟨inside, -⟩)
      · exact ⟨_, inside, rfl⟩
      · exact ⟨_, inside, rfl⟩
    · rintro ⟨tip, inside, target⟩
      rcases NodeKind.target?_eq_some.mp target with rfl | rfl
      · refine .inr ⟨inside, ?_⟩
        -- A rule whose token is shown as its spelling would have been absorbed by the user.
        exact Grammar.inlineSpelling?_eq_none_of_mem_itemRules valid separate listed
          (Grammar.mem_allRendered_of_mem_itemRules present) inside
      · exact .inl inside
  rw [noted] at list
  refine ⟨distinct.sublist (List.filter_sublist.map Rule.name), fun nobody => ?_, fun somebody => ?_⟩
  · rw [← list, nobody]
    rfl
  · rw [← list, Markup.userList, if_neg]
    rwa [List.isEmpty_iff]

/-- A grammar in which a token is used before and after its own rule, and a rule by itself. -/
def mutualRules : Grammar :=
  { parserRules := [
      { name := "r", kind := .parser, line := 1
        body := Notation.choiceOf [[Node.leaf (.ruleRef "s"), Node.token "A"],
          [Node.leaf (.ruleRef "r"), Node.token "A"]] },
      { name := "s", kind := .parser, line := 1, body := Notation.choiceOf [[Node.token "A"]] }]
    lexerRules := [
      { name := "A", kind := .lexer, line := 1
        body := Notation.choiceOf [[Node.leaf (.charSet "a")]] },
      { name := "B", kind := .lexer, line := 1, body := Notation.choiceOf [[Node.token "A"]] }] }

theorem users_document_mutualRules :
    ∃ document tree, Catalogue.document mutualRules {} Docs.none = .ok document ∧
      document.treeAt? Document.root = some tree ∧
        ("A", [.element "usages" []
          (["r", "s", "B"].map fun user => .element "declaration" [] [.text user])]) ∈
            Markup.declarations [tree.markup] := by
  have valid : mutualRules.validate = .ok () := by
    decide
  have separate : ∀ rule ∈ mutualRules.parserRules, ∀ other ∈ mutualRules.lexerRules,
      rule.name ≠ other.name := by
    decide
  have users : mutualRules.users {} "A" = ["r", "s", "B"] := by
    decide
  have listed : "A" ∈ (mutualRules.itemRules {}).map Rule.name := by
    decide
  obtain ⟨document, tree, written, read, -, declared, each⟩ :=
    users_document valid separate {} Docs.none
  rw [← declared] at listed
  obtain ⟨⟨_, contents⟩, inside, rfl⟩ := List.mem_map.mp listed
  obtain ⟨-, -, somebody⟩ := each "A" contents inside
  rw [users] at somebody
  refine ⟨document, tree, written, read, ?_⟩
  rw [← somebody (List.cons_ne_nil "r" _)]
  exact inside

end Catalogue
end Rulebook
