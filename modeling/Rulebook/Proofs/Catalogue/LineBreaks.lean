import Rulebook.Proofs.Catalogue.Relaid

/-!
# Line breaks of one rule

The settled line breaks of a rule count in the rule alone: every other rule is rendered as before, in
the listing and in the catalogue.
-/

namespace Rulebook
namespace Catalogue

/-! ### Documents that differ in one rule -/

/-- Are two parts of a section the same, or both the item of a name, with the same declarations? -/
def SameItem (name : String) (content other : Markup) : Prop :=
  content = other ∨ content.itemName? = some (some name) ∧ other.itemName? = some (some name) ∧
    Markup.names [content] = Markup.names [other]

/-- Are two parts of a document the same but for the items of a name? -/
def SameSet (name : String) (content other : Markup) : Prop :=
  SameItem name content other ∨ ∃ (attributes : List (String × String)) (contents others : List Markup),
    content = .element "set" attributes contents ∧ other = .element "set" attributes others ∧
      List.Forall₂ (SameItem name) contents others

/-- Are two documents the same but for the items of a name? -/
def SameDocument (name : String) (document other : Markup) : Prop :=
  ∃ (tag : String) (attributes : List (String × String)) (contents others : List Markup),
    document = .element tag attributes contents ∧ other = .element tag attributes others ∧
      List.Forall₂ (SameSet name) contents others

/-- Do steps write entries that are the same but for the items of a name? -/
structure SameItems (name : String) (steps others : List Step) : Prop where
  /-- The contents are the same but for the items. -/
  contents : List.Forall₂ (SameItem name) (Step.markupAll steps) (Step.markupAll others)
  /-- The attributes are the same. -/
  attributes : steps.filterMap Step.attribute? = others.filterMap Step.attribute?

section

variable {name : String} {grammar : Grammar} {settings : Settings}
  {lineBreaks : List (String × List Nat)}

theorem SameItems.refl (steps : List Step) : SameItems name steps steps :=
  ⟨List.forall₂_same.mpr fun _ _ => .inl rfl, rfl⟩

theorem SameItems.append {steps others later rest : List Step} (same : SameItems name steps others)
    (also : SameItems name later rest) : SameItems name (steps ++ later) (others ++ rest) where
  contents := by
    rw [Step.markupAll_append, Step.markupAll_append]
    exact List.rel_append same.contents also.contents
  attributes := by rw [List.filterMap_append, List.filterMap_append, same.attributes, also.attributes]

/-- Entries that are the same but for the items of a name carry over to their sets. -/
theorem carriesOver_sameItems (docs : Docs) (name : String) :
    CarriesOver docs docs (fun _ => SameItems name)
      fun steps others => List.Forall₂ (SameSet name) (Step.markupAll steps) (Step.markupAll others) where
  nil _ := .refl _
  append same also := same.append also
  inSection := by
    intro heading? first second same
    cases heading? with
    | none => exact same.contents.imp fun _ _ => .inl
    | some title =>
        have whole := (SameItems.refl (setHead docs title)).append same
        refine .cons (.inr ⟨_, _, _, rfl, ?_, whole.contents⟩) .nil
        rw [whole.attributes]
  join same also := by
    rw [Step.markupAll_append, Step.markupAll_append]
    exact List.rel_append same also

theorem SameItem.names_eq {content other : Markup} (same : SameItem name content other) :
    Markup.names [content] = Markup.names [other] := by
  rcases same with rfl | ⟨-, -, declared⟩
  · rfl
  · exact declared

theorem SameItem.settled {usersOf : String → List String} {content other : Markup}
    (behind : List String) (same : SameItem name content other) :
    SameItem name (content.settled usersOf behind) (other.settled usersOf behind) := by
  rcases same with rfl | ⟨named, also_named, declared⟩
  · exact .inl rfl
  · refine .inr ⟨?_, ?_, ?_⟩
    · rw [Markup.itemName?_settled, named]
    · rw [Markup.itemName?_settled, also_named]
    · rw [Markup.names_settled, Markup.names_settled, declared]

theorem SameSet.names_eq {content other : Markup} (same : SameSet name content other) :
    Markup.names [content] = Markup.names [other] := by
  rcases same with item | ⟨attributes, contents, others, rfl, rfl, all⟩
  · exact item.names_eq
  · rw [Markup.names_element, Markup.names_element,
      Markup.names_eq_of_forall₂ SameItem.names_eq all]

theorem SameSet.settled {usersOf : String → List String} {content other : Markup}
    (behind : List String) (same : SameSet name content other) :
    SameSet name (content.settled usersOf behind) (other.settled usersOf behind) := by
  rcases same with item | ⟨attributes, contents, others, rfl, rfl, all⟩
  · exact .inl (item.settled behind)
  · have silent : Markup.declares? "set" attributes = none := rfl
    rw [Markup.settled_element silent, Markup.settled_element silent]
    refine .inr ⟨attributes, _, _, rfl, rfl, ?_⟩
    exact Markup.forall₂_settledAll SameItem.names_eq SameItem.settled all behind

/-! ### Rules with settled line breaks -/

/-- Settled line breaks of one rule do not count in any other. -/
theorem render_of_lineBreaks
    (same : ∀ other, other ≠ name → lineBreaks.lookup other = settings.breaksOf? other) {rule : Rule}
    (apart : rule.name ≠ name) :
    rule.render (renderer grammar { settings with lineBreaks }) =
      rule.render (renderer grammar settings) := by
  have announced : (renderer grammar { settings with lineBreaks }).enter rule =
      (renderer grammar settings).enter rule := by
    have breaks : Settings.breaksOf? { settings with lineBreaks } rule.name =
        settings.breaksOf? rule.name := same rule.name apart
    simp only [renderer, breaks]
  exact Rule.render_with_enter announced

/-- A rule is rendered to the same piece wherever the same has been absorbed before. -/
theorem match_render_eq (rule : Rule) :
    Descent.Match SameInlining Eq (rule.render (renderer grammar settings))
      (rule.render (renderer grammar settings)) := by
  refine ((renderer grammar settings).matches_with_enter (renderer grammar settings).enter).rule
    (fun _ _ => trivial) ?_ ?_
  · intro start origin related
    obtain ⟨inlining, _⟩ := start
    obtain ⟨_, _⟩ := origin
    cases related
    rfl
  · rintro piece _ rfl start _ rfl
    exact ⟨rfl, rfl⟩

/-- What is written of a rule is the same, or an item of the name that is the same apart from layout. -/
theorem sameItems_entriesOf (docs : Docs) (inlining : Inlining) (heading? : Option String) {rule : Rule}
    {piece other : Piece} (same : SameEntry settings rule piece other)
    (apart : rule.name ≠ name → piece = other) :
    SameItems name (entriesOf docs inlining heading? (rule, piece))
      (entriesOf docs inlining heading? (rule, other)) := by
  by_cases named : rule.name = name
  · unfold entriesOf
    split
    · exact .refl _
    · have declared := (same.item (if rule.isFragment then
        [Step.element "annotation" [.text "helper"]] else [])).names_eq
      obtain ⟨-, body, rest, -, steps, other_steps⟩ := same
      refine SameItems.append (.refl _) ⟨.cons (.inr ⟨?_, ?_, declared⟩) .nil, rfl⟩
      · rw [steps, ← named]
        exact congrArg some (declaredName?_entrySteps settings rule body)
      · rw [other_steps, ← named]
        exact congrArg some (declaredName?_entrySteps settings rule rest)
  · rw [apart named]
    exact .refl _

/-- If the settled line breaks of two settings differ for one name only, the documents of a valid grammar
differ in the items of the name only. -/
theorem exists_document_of_lineBreaks (valid : grammar.validate = .ok ()) (docs : Docs)
    (same : ∀ other, other ≠ name → lineBreaks.lookup other = settings.breaksOf? other) :
    ∃ (document other : Document) (tree otherTree : Tree),
      Catalogue.document grammar { settings with lineBreaks } docs = .ok document ∧
        Catalogue.document grammar settings docs = .ok other ∧
          document.treeAt? Document.root = some tree ∧
            other.treeAt? Document.root = some otherTree ∧
              SameDocument name tree.markup otherTree.markup := by
  have rendered (rule : Rule) : Descent.Match SameInlining
      (fun piece other => SameEntry settings rule piece other ∧ (rule.name ≠ name → piece = other))
      (rule.render (renderer grammar
        (settings.withLayout settings.columnBudget settings.textColumnBudget lineBreaks)))
      (rule.render (renderer grammar settings)) := by
    have entry : Descent.Match SameInlining (SameEntry settings rule)
        (rule.render (renderer grammar
          (settings.withLayout settings.columnBudget settings.textColumnBudget lineBreaks)))
        (rule.render (renderer grammar settings)) := match_render_withLayout rule
    by_cases named : rule.name = name
    · exact entry.mono fun _ _ entered => ⟨entered, fun apart => absurd named apart⟩
    · have unchanged : Descent.Match SameInlining Eq
          (rule.render (renderer grammar
            (settings.withLayout settings.columnBudget settings.textColumnBudget lineBreaks)))
          (rule.render (renderer grammar settings)) := by
        have alone : rule.render (renderer grammar { settings with lineBreaks }) =
            rule.render (renderer grammar settings) := render_of_lineBreaks same named
        exact alone ▸ match_render_eq rule
      exact (entry.and unchanged).mono fun _ _ entered => ⟨entered.1, fun _ => entered.2⟩
  obtain ⟨document, other, tree, otherTree, steps, rest, written, other_written, read, other_read, alike,
    settled, other_settled⟩ := exists_documents_alike valid (carriesOver_sameItems docs name) rendered
      fun inlining entered => ⟨entered.1.1, fun heading? =>
        sameItems_entriesOf docs inlining heading? entered.1 entered.2⟩
  refine ⟨document, other, tree, otherTree, written, other_written, read, other_read, ?_⟩
  have silent : Markup.declares? "tokens" [] = none := rfl
  rw [settled, other_settled, Markup.settled_element silent, Markup.settled_element silent]
  exact ⟨"tokens", [], _, _, rfl, rfl,
    Markup.forall₂_settledAll SameSet.names_eq SameSet.settled alike []⟩

end

end Catalogue

/-! ### Both renderings -/

/-- Do two settings give listings that show the same and documents that are equal apart from layout? -/
structure SameContent (grammar : Grammar) (settings other : Settings) : Prop where
  /-- The listings are equal once blanks and line ends are deleted. -/
  listing : ∃ text rest, Listing.ofGrammar grammar settings = .ok text ∧
    Listing.ofGrammar grammar other = .ok rest ∧
      visible false text.toList = visible false rest.toList
  /-- The documents are equal once line ends and fillers are deleted. -/
  document : ∀ docs, ∃ (document rest : Document) (tree otherTree : Tree),
    Catalogue.document grammar settings docs = .ok document ∧
      Catalogue.document grammar other docs = .ok rest ∧
        document.treeAt? Document.root = some tree ∧ rest.treeAt? Document.root = some otherTree ∧
          tree.markup.pruned Markup.isLayout = otherTree.markup.pruned Markup.isLayout

/-- Do two settings render all rules alike but those of a name? -/
structure SameRules (grammar : Grammar) (name : String) (settings other : Settings) : Prop where
  /-- In both renderings every other rule is rendered alike. -/
  render : ∀ rule : Rule, rule.name ≠ name →
    rule.render (Listing.renderer grammar settings) = rule.render (Listing.renderer grammar other) ∧
      rule.render (Catalogue.renderer grammar settings) =
        rule.render (Catalogue.renderer grammar other)
  /-- The listings consist of the paragraphs of the same rules, and those of every other rule are
  equal. -/
  listing : ∃ rules : List Rule,
    Listing.ofGrammar grammar settings =
        .ok (String.ofList (rules.flatMap (Listing.paragraphOf grammar settings))) ∧
      Listing.ofGrammar grammar other =
          .ok (String.ofList (rules.flatMap (Listing.paragraphOf grammar other))) ∧
        ∀ rule ∈ rules, rule.name ≠ name →
          Listing.paragraphOf grammar settings rule = Listing.paragraphOf grammar other rule
  /-- The documents are equal but for the items of the name. -/
  document : ∀ docs, ∃ (document rest : Document) (tree otherTree : Tree),
    Catalogue.document grammar settings docs = .ok document ∧
      Catalogue.document grammar other docs = .ok rest ∧
        document.treeAt? Document.root = some tree ∧ rest.treeAt? Document.root = some otherTree ∧
          Catalogue.SameDocument name tree.markup otherTree.markup

/-- Widths and settled line breaks never change what is shown of a valid grammar, and the line breaks of
one name change no rule of another. -/
theorem sameContent_withLayout {grammar : Grammar} (valid : grammar.validate = .ok ())
    (settings : Settings) :
    (∀ columnBudget textColumnBudget lineBreaks,
        SameContent grammar (settings.withLayout columnBudget textColumnBudget lineBreaks) settings) ∧
      ∀ (name : String) (lineBreaks : List (String × List Nat)),
        (∀ other, other ≠ name → lineBreaks.lookup other = settings.breaksOf? other) →
          SameRules grammar name { settings with lineBreaks } settings := by
  refine ⟨fun columnBudget textColumnBudget lineBreaks => ⟨?_, ?_⟩,
    fun name lineBreaks same => ⟨?_, ?_, ?_⟩⟩
  · exact Listing.exists_ofGrammar_withLayout valid settings columnBudget textColumnBudget lineBreaks
  · exact Catalogue.exists_document_withLayout valid settings columnBudget textColumnBudget lineBreaks
  · exact fun rule apart =>
      ⟨Listing.render_of_lineBreaks same apart, Catalogue.render_of_lineBreaks same apart⟩
  · refine ⟨Listing.listedRules grammar settings, (Listing.ofGrammar_eq valid _).1,
      (Listing.ofGrammar_eq valid settings).1, fun rule _ apart => ?_⟩
    rw [Listing.paragraphOf, Listing.paragraphOf, Listing.render_of_lineBreaks same apart]
  · exact fun docs => Catalogue.exists_document_of_lineBreaks valid docs same

/-- A grammar whose parser rules have two elements each. -/
def pairedElements : Grammar :=
  { parserRules := [
      { name := "r", kind := .parser, line := 1
        body := Notation.choiceOf [[Node.leaf (.ruleRef "q"), Node.leaf (.ruleRef "q")]] },
      { name := "q", kind := .parser, line := 2
        body := Notation.choiceOf [[Node.token "A", Node.token "A"]] }]
    lexerRules := [{
      name := "A", kind := .lexer, line := 1
      body := Notation.choiceOf [[Node.leaf (.charSet "a")]] }] }

/-- Settings in which the second element of a rule starts a line. -/
def brokenSettings : Settings :=
  { lineBreaks := [("r", [1])] }

theorem sameContent_withLayout_pairedElements :
    pairedElements.validate = .ok () ∧
      (∀ other, other ≠ "r" → [("r", [1])].lookup other = Settings.breaksOf? {} other) ∧
        SameContent pairedElements (Settings.withLayout {} 0 0 []) {} ∧
          SameRules pairedElements "r" brokenSettings {} ∧
            Listing.ofGrammar pairedElements brokenSettings ≠ Listing.ofGrammar pairedElements {} := by
  have valid : pairedElements.validate = .ok () := by
    decide
  have same : ∀ other, other ≠ "r" → [("r", [1])].lookup other = Settings.breaksOf? {} other := by
    intro other apart
    rw [List.lookup_cons, beq_false_of_ne apart]
    rfl
  obtain ⟨content, rules⟩ := sameContent_withLayout valid {}
  refine ⟨valid, same, content 0 0 [], rules "r" [("r", [1])] same, ?_⟩
  decide

end Rulebook
