import Rulebook.Proofs.Catalogue.Written

/-!
# How a catalogue reads

The items, the declarations and the identifiers of a finished catalogue are told by the rules that
have an item and the tips of their bodies.
-/

namespace Rulebook
namespace Catalogue

section

variable {grammar : Grammar} {settings : Settings} {user : String} {tips : List NodeKind}

theorem flatMap_bodyLinks {Found : Type} {gather : Step → List Found} (gathers : Step.Gathers gather) :
    (bodyLinks grammar settings user tips).flatMap gather =
      tips.flatMap fun tip => (tipSteps grammar settings user tip).flatMap gather := by
  rw [bodyLinks, List.flatMap_assoc]
  exact congrArg (tips.flatMap ·) (funext fun tip => gathers.links _)

/-- What tips show of other rules declares nothing. -/
theorem declarations_bodyLinks :
    (bodyLinks grammar settings user tips).flatMap Step.declarations = [] := by
  refine List.flatMap_eq_nil_iff.mpr fun step member => ?_
  obtain ⟨tip, -, inside⟩ := List.mem_flatMap.mp member
  have shown : step ∈ tipSteps grammar settings user tip := (List.mem_filter.mp inside).1
  have token (name : String) : (Piece.token grammar settings name).declarations = [] := by
    unfold Piece.token
    split
    · rfl
    · split <;> rfl
  unfold tipSteps at shown
  split at shown
  · split at shown
    · simp at shown
    · rename_i name _
      rcases List.mem_cons.mp shown with rfl | other
      · rfl
      · rw [List.mem_singleton.mp other, token]
  · rename_i name
    rcases List.mem_cons.mp shown with rfl | other
    · rfl
    · rw [List.mem_singleton.mp other]
      rfl
  · simp at shown

/-- An identifier shows the name of a rule reference, or of a token that is neither shown as its
spelling nor linked and has a lexer rule. -/
theorem mem_identifiers_bodyLinks {shown : Option String} :
    shown ∈ (bodyLinks grammar settings user tips).flatMap Step.identifiers ↔
      ∃ name, shown = some name ∧ (.ruleRef name ∈ tips ∨
        .terminal (.token name) ∈ tips ∧ grammar.inlineSpelling? settings name = none ∧
          settings.linkOf? name = none ∧ (grammar.rule? .lexer name).isSome = true) := by
  have token (name : String) : (Piece.token grammar settings name).identifiers =
      if settings.linkOf? name = none ∧ (grammar.rule? .lexer name).isSome = true then [some name]
      else [] := by
    unfold Piece.token
    cases settings.linkOf? name with
    | some address => rfl
    | none =>
        cases (grammar.rule? .lexer name).isSome <;> rfl
  rw [flatMap_bodyLinks Step.gathers_identifiers, List.mem_flatMap]
  constructor
  · rintro ⟨tip, inside, member⟩
    unfold tipSteps at member
    split at member
    · rename_i name
      split at member
      · simp at member
      · rename_i named
        rw [List.flatMap_cons, List.flatMap_singleton, token] at member
        split at member
        · rename_i linked
          refine ⟨name, List.mem_singleton.mp member, .inr ⟨inside, ?_, linked⟩⟩
          simpa using named
        · simp [Step.identifiers, Step.markup, Markup.identifiers, Markup.namedAll] at member
    · rename_i name
      exact ⟨name, List.mem_singleton.mp member, .inl inside⟩
    · simp at member
  · rintro ⟨name, rfl, inside | ⟨inside, named, linked⟩⟩
    · exact ⟨_, inside, List.mem_singleton.mpr rfl⟩
    · refine ⟨_, inside, ?_⟩
      rw [tipSteps, named, Option.isSome_none, if_neg Bool.false_ne_true, List.flatMap_cons,
        List.flatMap_singleton, token, if_pos linked]
      exact List.mem_singleton.mpr rfl

/-- The rule `user` is noted as a user of every rule to which its tips refer, unless the rule is a
token shown as its spelling. -/
theorem mem_usersOf_bodyLinks {name other : String} :
    other ∈ (bodyLinks grammar settings user tips).flatMap (Step.usersOf name) ↔
      other = user ∧ (.ruleRef name ∈ tips ∨
        .terminal (.token name) ∈ tips ∧ grammar.inlineSpelling? settings name = none) := by
  have token (shown : String) : (Piece.token grammar settings shown).usersOf name = [] := by
    unfold Piece.token
    split
    · rfl
    · split <;> rfl
  have noted (target : String) : (Step.reference target user).usersOf name =
      if target = name then [user] else [] := rfl
  rw [flatMap_bodyLinks (Step.gathers_usersOf name), List.mem_flatMap]
  constructor
  · rintro ⟨tip, inside, member⟩
    unfold tipSteps at member
    split at member
    · split at member
      · simp at member
      · rename_i target named
        rw [List.flatMap_cons, List.flatMap_singleton, token, List.append_nil, noted] at member
        split at member
        · rename_i same
          refine ⟨List.mem_singleton.mp member, .inr ⟨same ▸ inside, ?_⟩⟩
          rw [← same]
          simpa using named
        · simp at member
    · rename_i target
      rw [List.flatMap_cons, List.flatMap_singleton, noted] at member
      split at member
      · rename_i same
        exact ⟨List.mem_singleton.mp member, .inl (same ▸ inside)⟩
      · simp [Piece.identifier, Step.usersOf, Step.usersOfAll] at member
    · simp at member
  · rintro ⟨rfl, inside | ⟨inside, named⟩⟩
    · refine ⟨_, inside, ?_⟩
      rw [tipSteps, List.flatMap_cons, List.flatMap_singleton, noted, if_pos rfl]
      exact List.mem_append_right _ (List.mem_singleton.mpr rfl)
    · refine ⟨_, inside, ?_⟩
      rw [tipSteps, named, Option.isSome_none, if_neg Bool.false_ne_true, List.flatMap_cons, noted,
        if_pos rfl]
      exact List.mem_append_left _ (List.mem_singleton.mpr rfl)

end

/-- Does a tree hold what counts of the rules that have an item? -/
structure IsReadAs (grammar : Grammar) (settings : Settings) (tree : Tree) : Prop where
  /-- The items. -/
  items : tree.markup.placements.map Prod.snd =
    (grammar.itemRules settings).map fun rule => some rule.name
  /-- The identifiers. -/
  identifiers : Markup.identifiers [tree.markup] = (grammar.itemRules settings).flatMap fun rule =>
    (bodyLinks grammar settings rule.name rule.body.tips).flatMap Step.identifiers
  /-- The names that are declared. -/
  declared : (Markup.declarations [tree.markup]).map Prod.fst =
    (grammar.itemRules settings).map Rule.name
  /-- The declarations with the lists of users, if no two rules share a name. -/
  declarations : ((grammar.itemRules settings).map Rule.name).Nodup →
    Markup.declarations [tree.markup] = (grammar.itemRules settings).map fun rule =>
      (rule.name, Markup.userList ((grammar.itemRules settings).flatMap fun user =>
        (bodyLinks grammar settings user.name user.body.tips).flatMap
          (Step.usersOf rule.name)).eraseDups)

/-- The users of a name: every rule that has an item and refers to the name, once. -/
def usersOf (grammar : Grammar) (settings : Settings) (name : String) : List String :=
  ((grammar.itemRules settings).flatMap fun user =>
    (bodyLinks grammar settings user.name user.body.tips).flatMap (Step.usersOf name)).eraseDups

namespace IsRendered

variable {grammar : Grammar} {settings : Settings} {parserPart lexerPart : List (Rule × Piece)}
  {afterParser afterLexer : State}

/-- A catalogue is written, and it reads as all its sets with the list of the users of every name in
the last declaration of the name. -/
theorem exists_settled_tree
    (rendered : IsRendered grammar settings parserPart lexerPart afterParser afterLexer)
    (docs : Docs) :
    ∃ document tree, Catalogue.document grammar settings docs = .ok document ∧
      document.treeAt? Document.root = some tree ∧
        tree.markup = (Markup.element "tokens" [] (Step.markupAll (catalogueSteps docs
          afterParser.inlining afterLexer.inlining parserPart lexerPart))).settled
            (usersOf grammar settings) [] := by
  let steps := catalogueSteps docs afterParser.inlining afterLexer.inlining parserPart lexerPart
  have notes (name : String) : (Step.usersOfAll name steps).eraseDups =
      usersOf grammar settings name := by
    rw [Step.usersOfAll_eq, rendered.flatMap_catalogueSteps docs (Step.gathers_usersOf name)]
    rfl
  obtain ⟨tree, read, settled⟩ := Builder.exists_settled_tree (by decide) (rendered.tidy docs)
  refine ⟨_, tree, document_eq docs rendered.parser_run rendered.lexer_run, read, ?_⟩
  rw [settled, bare_catalogueSteps, funext notes]

/-- The names that a catalogue declares are those of the rules that have an item. -/
theorem declarations_catalogueSteps
    (rendered : IsRendered grammar settings parserPart lexerPart afterParser afterLexer)
    (docs : Docs) :
    (catalogueSteps docs afterParser.inlining afterLexer.inlining parserPart lexerPart).flatMap
        Step.declarations =
      (grammar.itemRules settings).map fun rule => (rule.name, []) := by
  rw [rendered.flatMap_catalogueSteps docs Step.gathers_declarations, ← List.flatMap_pure_eq_map]
  refine congrArg (List.flatMap · _) (funext fun rule => ?_)
  rw [ruleSteps, List.flatMap_cons, declarations_bodyLinks]
  rfl

/-- A catalogue is written, and it reads as what counts of the rules that have an item. -/
theorem exists_tree
    (rendered : IsRendered grammar settings parserPart lexerPart afterParser afterLexer)
    (valid : grammar.validate = .ok ()) (docs : Docs) :
    ∃ document tree, Catalogue.document grammar settings docs = .ok document ∧
      document.treeAt? Document.root = some tree ∧ IsReadAs grammar settings tree := by
  let steps := catalogueSteps docs afterParser.inlining afterLexer.inlining parserPart lexerPart
  have declares := rendered.declarations_catalogueSteps docs
  have shows : steps.flatMap Step.identifiers = (grammar.itemRules settings).flatMap fun rule =>
      (bodyLinks grammar settings rule.name rule.body.tips).flatMap Step.identifiers := by
    rw [rendered.flatMap_catalogueSteps docs Step.gathers_identifiers]
    rfl
  have declared : Markup.names [.element "tokens" [] (Step.markupAll steps)] =
      (grammar.itemRules settings).map Rule.name := by
    rw [Markup.names_element, Markup.declares?, if_neg (by decide), Markup.names,
      Step.declarations_markupAll, declares, Option.toList_none, List.nil_append, List.map_map]
    rfl
  obtain ⟨document, tree, written, read, settled⟩ := rendered.exists_settled_tree docs
  refine ⟨document, tree, written, read, ?_, ?_, ?_, fun distinct => ?_⟩
  · have alike := congrArg Markup.withoutUsers settled
    rw [Markup.withoutUsers_settled] at alike
    rw [Markup.placements_eq_of_withoutUsers_eq (by decide) alike, rendered.items valid docs]
  · rw [settled, Markup.identifiers_settled, Markup.identifiers_element, if_neg (by decide),
      List.nil_append, Step.identifiers_markupAll, shows]
  · rw [settled, ← Markup.names, Markup.names_settled, declared]
  · -- The lists of users go to the last declaration of a name, so here every name needs a single one.
    rw [settled, Markup.settled_eq_withUsers, Markup.declarations_element_withUsers (by decide),
      declares, List.map_map]
    · rfl
    · rw [List.append_nil, declared]
      exact distinct

end IsRendered
end Catalogue
end Rulebook
