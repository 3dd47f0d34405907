import Rulebook.Proofs.Catalogue.Parallel
import Rulebook.Proofs.Catalogue.Reading
import Rulebook.Proofs.Catalogue.Shown
import Rulebook.Proofs.Document.Pruning
import Rulebook.Proofs.Listing.Relaid

/-!
# Catalogues with another layout

Widths and settled line breaks decide only which fillers and line ends stand in the descriptions of a
catalogue.  Once these are deleted the document is the same.
-/

namespace Rulebook

/-! ### Layout in a document -/

namespace Markup

/-- Is it the end of a line, or a text that consists of fillers? -/
def isLayout : Markup → Bool
  | .element name _ [] => name == "crlf"
  | .element name _ [.cdata value] => name == "string" && (fillerWidth? value).any (0 < ·)
  | _ => false

theorem isLayout_eq_false {name : String} (no_end : name ≠ "crlf") (no_text : name ≠ "string")
    (attributes : List (String × String)) (contents : List Markup) :
    isLayout (.element name attributes contents) = false := by
  unfold isLayout
  split
  · rename_i same
    cases same
    exact beq_false_of_ne no_end
  · rename_i same
    cases same
    rw [beq_false_of_ne no_text, Bool.false_and]
  · rfl

/-- Layout declares nothing, and there is none in a list of users. -/
theorem inert_isLayout : Inert isLayout where
  silent markup layout := by
    unfold isLayout at layout
    split at layout
    · rw [beq_iff_eq.mp layout]
      rfl
    · rw [beq_iff_eq.mp (Bool.and_eq_true_iff.mp layout).1]
      rfl
    · exact absurd layout Bool.false_ne_true
  stable markup usersOf behind := by
    cases markup with
    | text | cdata => rfl
    | element name attributes contents =>
        by_cases declaring : name = "declaration"
        · subst declaring
          rw [settled, isLayout_eq_false (by decide) (by decide),
            isLayout_eq_false (by decide) (by decide)]
        · have silent : declares? name attributes = none := if_neg declaring
          rw [settled_element silent]
          rcases contents with _ | ⟨first, _ | _⟩
          · rfl
          all_goals cases first <;> rfl
  lists users := by
    have each : prunedAll isLayout (users.map fun user => .element "declaration" [] [.text user]) =
        users.map fun user => .element "declaration" [] [.text user] := by
      induction users with
      | nil => rfl
      | cons user users induction =>
          rw [List.map_cons, prunedAll, induction, pruned]
          rfl
    unfold userList
    split
    · rfl
    · rw [prunedAll, pruned, each, isLayout_eq_false (by decide) (by decide)]
      rfl

end Markup

namespace Step

/-- What steps write apart from layout. -/
def solid (steps : List Step) : List Markup :=
  Markup.prunedAll Markup.isLayout (markupAll steps)

@[simp]
theorem solid_append (steps later : List Step) :
    solid (steps ++ later) = solid steps ++ solid later := by
  rw [solid, markupAll_append, Markup.prunedAll_append, ← solid, ← solid]

theorem solid_cons (step : Step) (later : List Step) :
    solid (step :: later) = solid [step] ++ solid later :=
  solid_append [step] later

/-- Fillers are layout. -/
theorem solid_whitespace {count : Nat} (positive : 0 < count) : solid [whitespace count] = [] := by
  have layout : Markup.isLayout (.element "string" [] [.cdata (blanks count)]) = true := by
    rw [Markup.isLayout, fillerWidth?_blanks, Option.any_some, decide_eq_true positive]
    rfl
  exact if_pos layout

/-- Do steps write the same apart from layout? -/
structure SameSolid (steps others : List Step) : Prop where
  /-- The contents are the same apart from layout. -/
  contents : solid steps = solid others
  /-- The attributes are the same. -/
  attributes : steps.filterMap attribute? = others.filterMap attribute?

namespace SameSolid

theorem refl (steps : List Step) : SameSolid steps steps :=
  ⟨rfl, rfl⟩

theorem symm {steps others : List Step} (same : SameSolid steps others) : SameSolid others steps :=
  ⟨same.contents.symm, same.attributes.symm⟩

theorem trans {steps others more : List Step} (same : SameSolid steps others)
    (also : SameSolid others more) : SameSolid steps more :=
  ⟨same.contents.trans also.contents, same.attributes.trans also.attributes⟩

theorem append {steps others later rest : List Step} (same : SameSolid steps others)
    (also : SameSolid later rest) : SameSolid (steps ++ later) (others ++ rest) where
  contents := by rw [solid_append, solid_append, same.contents, also.contents]
  attributes := by rw [List.filterMap_append, List.filterMap_append, same.attributes, also.attributes]

/-- Elements that are no layout may hold different layout. -/
theorem element {name : String} {body others : List Step} (no_end : name ≠ "crlf")
    (no_text : name ≠ "string") (same : SameSolid body others) :
    SameSolid [.element name body] [.element name others] where
  contents := by
    have inner : Markup.prunedAll Markup.isLayout (markupAll body) =
        Markup.prunedAll Markup.isLayout (markupAll others) := same.contents
    simp only [solid, markupAll, markup, List.append_nil, same.attributes]
    refine Markup.prunedAll_element_congr inner ?_
    rw [Markup.isLayout_eq_false no_end no_text, Markup.isLayout_eq_false no_end no_text]
  attributes := rfl

/-- Steps that are layout only may be left out. -/
theorem of_layout {steps : List Step} (layout : solid steps = [])
    (bare : steps.filterMap attribute? = []) : SameSolid steps [] :=
  ⟨layout, bare⟩

/-- Layout declares nothing. -/
theorem names_eq {steps others : List Step} (same : SameSolid steps others) :
    Markup.names (markupAll steps) = Markup.names (markupAll others) := by
  have contents : Markup.prunedAll Markup.isLayout (markupAll steps) =
      Markup.prunedAll Markup.isLayout (markupAll others) := same.contents
  rw [← Markup.inert_isLayout.names_prunedAll, contents, Markup.inert_isLayout.names_prunedAll]

end SameSolid
end Step

namespace Catalogue

/-! ### Descriptions with another layout -/

/-- Do two pieces write the same apart from layout? -/
def Piece.SameSolid (piece other : Piece) : Prop :=
  Step.SameSolid piece.steps other.steps

namespace Piece.SameSolid

variable {piece other : Piece} {pieces others : List Piece}

theorem quantified (sign : String) (greedy : Bool) (same : piece.SameSolid other) :
    (piece.quantified sign greedy).SameSolid (other.quantified sign greedy) :=
  same.append (.refl _)

theorem group (grouping : Bool) (count : Nat) {steps rest : List Step}
    (same : Step.SameSolid steps rest) :
    Step.SameSolid (Piece.group grouping count steps) (Piece.group grouping count rest) := by
  unfold Piece.group
  split
  · have opening : Step.SameSolid [.symbol "("] [.symbol "("] := .refl _
    exact (opening.append same).append (.refl _)
  · exact same

theorem barred (grouping : Bool) (all : List.Forall₂ Piece.SameSolid pieces others) :
    Step.SameSolid (Piece.barred grouping pieces) (Piece.barred grouping others) := by
  induction all with
  | nil => exact .refl _
  | cons first _ induction =>
      have opening : Step.SameSolid (bar grouping) (bar grouping) := .refl _
      exact (opening.append first).append induction

theorem choice (grouping : Bool) (all : List.Forall₂ Piece.SameSolid pieces others) :
    (Piece.choice grouping pieces).SameSolid (Piece.choice grouping others) := by
  unfold Piece.SameSolid Piece.choice
  rw [all.length_eq]
  refine group grouping _ ?_
  cases all with
  | nil => exact .refl _
  | cons first later => exact first.append (barred grouping later)

theorem spaced (all : List.Forall₂ Piece.SameSolid pieces others) :
    Step.SameSolid (Piece.spaced pieces) (Piece.spaced others) := by
  induction all with
  | nil => exact .refl _
  | cons first _ induction =>
      have blank : Step.SameSolid [.whitespace 1] [.whitespace 1] := .refl _
      exact (blank.append first).append induction

theorem sequence (all : List.Forall₂ Piece.SameSolid pieces others) :
    (Piece.sequence pieces).SameSolid (Piece.sequence others) := by
  cases all with
  | nil => exact .refl _
  | cons first later => exact first.append (spaced later)

/-- Wherever lines end, the elements of an alternative are juxtaposed. -/
theorem filled_spaced (lineBreaks? : Option (List Nat)) (budget position buffered : Nat)
    (pieces : List Piece) :
    Step.SameSolid (filled lineBreaks? budget position buffered pieces) (Piece.spaced pieces) := by
  induction pieces generalizing position buffered with
  | nil => exact .refl _
  | cons piece later induction =>
      have element : Step.SameSolid (.whitespace 1 :: piece.steps) (.whitespace 1 :: piece.steps) :=
        .refl _
      rw [filled, Piece.spaced]
      split
      · have ends : Step.SameSolid continuation [] := by
          refine .of_layout ?_ rfl
          rw [continuation, Step.solid_cons, Step.solid_whitespace (by decide)]
          rfl
        exact (ends.append element).append (induction (position + 1) 0)
      · exact element.append (induction (position + 1) (buffered + piece.length))

theorem alternative (lineBreaks? other? : Option (List Nat)) (budget width : Nat)
    (grouping : Bool) (all : List.Forall₂ Piece.SameSolid pieces others) :
    (Piece.alternative lineBreaks? budget grouping pieces).SameSolid
      (Piece.alternative other? width grouping others) := by
  unfold Piece.SameSolid Piece.alternative
  rw [all.length_eq]
  refine group grouping _ ?_
  cases all with
  | nil => exact .refl _
  | cons first later =>
      have before := filled_spaced lineBreaks? budget 1 0
      have after := filled_spaced other? width 1 0
      exact first.append (((before _).trans (spaced later)).trans (after _).symm)

end Piece.SameSolid

/-- Has the same been absorbed in two states, and has the same rule been announced? -/
structure SameAnnounced (first second : State) : Prop where
  /-- The same has been absorbed. -/
  inlining : first.inlining = second.inlining
  /-- The rules have the same name. -/
  name : first.currentName = second.currentName
  /-- The rules are of the same namespace. -/
  kind : first.currentKind = second.currentKind

/-- Has the same been absorbed in two states? -/
def SameInlining (first second : State) : Prop :=
  first.inlining = second.inlining

section

variable {grammar : Grammar} {settings : Settings} {columnBudget textColumnBudget : Nat}
  {lineBreaks : List (String × List Nat)}

/-- A token is shown in the same way whatever the layout. -/
theorem stepsMatch_token_withLayout (name : String) :
    StepsMatch SameAnnounced Piece.SameSolid
      (showTerminal grammar (settings.withLayout columnBudget textColumnBudget lineBreaks)
        (.token name))
      (showTerminal grammar settings (.token name)) := by
  intro state other related
  have resolved : (Inlining.resolve grammar
      (settings.withLayout columnBudget textColumnBudget lineBreaks) name).run state.inlining =
        (Inlining.resolve grammar settings name).run other.inlining := by
    rw [related.inlining]
    rfl
  simp only [StateT.run, showTerminal] at resolved ⊢
  rw [resolved]
  generalize Inlining.resolve grammar settings name other.inlining = outcome
  obtain ⟨_ | spelling, inlining⟩ := outcome
  · refine ⟨?_, rfl, related.name, related.kind⟩
    rw [related.name]
    exact Step.SameSolid.refl _
  · exact ⟨.refl _, rfl, related.name, related.kind⟩

/-- With another layout every node is written the same apart from layout. -/
theorem matches_withLayout :
    Renderer.Matches (fun _ => True) SameAnnounced Piece.SameSolid
      (renderer grammar (settings.withLayout columnBudget textColumnBudget lineBreaks))
      (renderer grammar settings) where
  optional greedy _ _ _ same := .pure (same.quantified "?" greedy)
  plus greedy _ _ _ same := .pure (same.quantified "+" greedy)
  star greedy _ _ _ same := .pure (same.quantified "*" greedy)
  negation _ _ _ same := by
    have sign : Step.SameSolid [.symbol "~"] [.symbol "~"] := .refl _
    exact .pure (sign.append same)
  range _ _ _ _ _ first second := by
    have dots : Step.SameSolid [.string ".."] [.string ".."] := .refl _
    exact .pure (first.append (dots.append second))
  block grouping _ _ _ all := .pure (.choice grouping all)
  set grouping _ _ _ all := .pure (.choice grouping all)
  alternative grouping _ _ _ all := fun state other related =>
    ⟨.alternative state.lineBreaks? other.lineBreaks? columnBudget settings.columnBudget grouping all,
      related⟩
  sequence _ _ _ all := .pure (.sequence all)
  terminal shown _ := by
    intro state other related
    cases shown with
    | literal value => exact ⟨.refl _, related⟩
    | token name => exact stepsMatch_token_withLayout name state other related
  ruleRef name _ := by
    intro state other related
    refine ⟨?_, related⟩
    have user : Step.SameSolid [Piece.identifier name, .reference name state.currentName]
        [Piece.identifier name, .reference name other.currentName] := by
      rw [related.name]
      exact .refl _
    exact user
  charSet _ _ := .pure (.refl _)
  placeholder _ := .pure (.refl _)
  predicate _ := .pure (.refl _)

/-- Are two pieces the entry of a rule, written the same apart from layout, and do they open the same
section? -/
def SameEntry (settings : Settings) (rule : Rule) (piece other : Piece) : Prop :=
  piece.heading? = other.heading? ∧ ∃ body rest, Step.SameSolid body rest ∧
    piece.steps = entrySteps settings rule.name body ∧
      other.steps = entrySteps settings rule.name rest

/-- With another layout a rule is written the same apart from layout. -/
theorem match_render_withLayout (rule : Rule) :
    Descent.Match SameInlining (SameEntry settings rule)
      (rule.render (renderer grammar
        (settings.withLayout columnBudget textColumnBudget lineBreaks)))
      (rule.render (renderer grammar settings)) := by
  refine matches_withLayout.rule (fun _ _ => trivial) (fun _ _ related => ⟨related, rfl, rfl⟩) ?_
  intro piece other same start origin related
  have body (single : Piece) : [single].flatMap Piece.steps = single.steps :=
    List.flatMap_singleton Piece.steps single
  refine ⟨⟨?_, piece.steps, other.steps, same, ?_, ?_⟩, related.inlining⟩
  · exact congrArg (fun kind => Section.openedAt? (grammar.source kind) settings.sectionMarkerOffset
      rule.line) related.kind
  · exact congrArg (entrySteps settings rule.name) (body piece)
  · exact congrArg (entrySteps settings rule.name) (body other)

/-! ### Documents with another layout -/

/-- The rules of a namespace that are rendered with two layouts are written alike one by one, if each rule
is. -/
theorem forall₂_writtenAlike {docs : Docs} {entries : Rule → Piece → Piece → Prop}
    {written : Option String → List Step → List Step → Prop}
    (rendered : ∀ rule, Descent.Match SameInlining (entries rule)
      (rule.render (renderer grammar
        (settings.withLayout columnBudget textColumnBudget lineBreaks)))
      (rule.render (renderer grammar settings)))
    (alike : ∀ {rule piece other} inlining, entries rule piece other →
      WrittenAlike docs docs written inlining (rule, piece) (rule, other))
    (kind : RuleKind) {start origin reached stop : State} {part parallel : List (Rule × Piece)}
    (same : SameInlining start origin)
    (run : (renderRules
        (renderer grammar (settings.withLayout columnBudget textColumnBudget lineBreaks))
        (grammar.renderedRules (settings.withLayout columnBudget textColumnBudget lineBreaks)
          kind)).run start = .ok (part, reached))
    (parallel_run : (renderRules (renderer grammar settings)
      (grammar.renderedRules settings kind)).run origin = .ok (parallel, stop)) :
    SameInlining reached stop ∧ ∀ inlining,
      List.Forall₂ (WrittenAlike docs docs written inlining) part parallel := by
  have listed : grammar.renderedRules
      (settings.withLayout columnBudget textColumnBudget lineBreaks) kind =
        grammar.renderedRules settings kind := by
    cases kind <;> rfl
  rw [listed] at run
  have each := fun (rule : Rule) (_ : rule ∈ grammar.renderedRules settings kind) => rendered rule
  have outcome := Descent.Match.renderRules each start origin same
  rw [run, parallel_run] at outcome
  cases outcome with
  | ok all related =>
      refine ⟨related, fun inlining => all.imp ?_⟩
      rintro ⟨rule, piece⟩ ⟨_, other⟩ ⟨rfl, entered⟩
      exact alike inlining entered

/-- If all rules are written alike with two layouts, both catalogues are written, and they are alike but
for the lists of users, which are the same. -/
theorem exists_documents_alike {docs : Docs} {entries : Rule → Piece → Piece → Prop}
    {written : Option String → List Step → List Step → Prop} {rows : List Step → List Step → Prop}
    (valid : grammar.validate = .ok ()) (carries : CarriesOver docs docs written rows)
    (rendered : ∀ rule, Descent.Match SameInlining (entries rule)
      (rule.render (renderer grammar
        (settings.withLayout columnBudget textColumnBudget lineBreaks)))
      (rule.render (renderer grammar settings)))
    (alike : ∀ {rule piece other} inlining, entries rule piece other →
      WrittenAlike docs docs written inlining (rule, piece) (rule, other)) :
    ∃ (document other : Document) (tree otherTree : Tree) (steps rest : List Step),
      Catalogue.document grammar (settings.withLayout columnBudget textColumnBudget lineBreaks) docs =
          .ok document ∧
        Catalogue.document grammar settings docs = .ok other ∧
          document.treeAt? Document.root = some tree ∧
            other.treeAt? Document.root = some otherTree ∧ rows steps rest ∧
              tree.markup = (Markup.element "tokens" [] (Step.markupAll steps)).settled
                (usersOf grammar settings) [] ∧
                otherTree.markup = (Markup.element "tokens" [] (Step.markupAll rest)).settled
                  (usersOf grammar settings) [] := by
  let relaid := settings.withLayout columnBudget textColumnBudget lineBreaks
  obtain ⟨parserPart, lexerPart, afterParser, afterLexer, first⟩ := exists_isRendered valid relaid
  obtain ⟨parallelParser, parallelLexer, parserEnd, lexerEnd, second⟩ :=
    exists_isRendered valid settings
  obtain ⟨between, parser_alike⟩ :=
    forall₂_writtenAlike rendered alike .parser rfl first.parser_run second.parser_run
  obtain ⟨final, lexer_alike⟩ :=
    forall₂_writtenAlike rendered alike .lexer between first.lexer_run second.lexer_run
  obtain ⟨document, tree, document_eq, read, settled⟩ := first.exists_settled_tree docs
  obtain ⟨other, otherTree, other_eq, other_read, other_settled⟩ := second.exists_settled_tree docs
  refine ⟨document, other, tree, otherTree, _, _, document_eq, other_eq, read, other_read, ?_, settled,
    other_settled⟩
  rw [between, final]
  exact carries.catalogueSteps (parser_alike _) (lexer_alike _)

/-- Entries that are the same apart from layout carry over to their sets. -/
theorem carriesOver_sameSolid (docs : Docs) :
    CarriesOver docs docs (fun _ => Step.SameSolid) Step.SameSolid where
  nil _ := .refl _
  append same also := same.append also
  inSection := by
    intro heading? first second same
    cases heading? with
    | none => exact same
    | some title =>
        have head : Step.SameSolid (setHead docs title) (setHead docs title) := .refl _
        exact .element (by decide) (by decide) (head.append same)
  join same also := same.append also

/-- The items of a rule are the same apart from layout if its bodies are. -/
theorem SameEntry.item {rule : Rule} {piece other : Piece}
    (same : SameEntry settings rule piece other) (marks : List Step) :
    Step.SameSolid [.element "item" (marks ++ piece.steps)]
      [.element "item" (marks ++ other.steps)] := by
  obtain ⟨-, body, rest, bodies, steps, other_steps⟩ := same
  have declared : Step.SameSolid [Piece.declaration rule.name] [Piece.declaration rule.name] :=
    .refl _
  have described : Step.SameSolid [Piece.description body] [Piece.description rest] := by
    refine .element (by decide) (by decide) ?_
    exact Step.SameSolid.append (Step.SameSolid.append (.refl _) bodies) (.refl _)
  rw [steps, other_steps]
  refine .element (by decide) (by decide) (Step.SameSolid.append (.refl _) ?_)
  exact Step.SameSolid.append (.refl _) (declared.append described)

theorem SameEntry.entriesOf (docs : Docs) (inlining : Inlining) (heading? : Option String)
    {rule : Rule} {piece other : Piece} (same : SameEntry settings rule piece other) :
    Step.SameSolid (Catalogue.entriesOf docs inlining heading? (rule, piece))
      (Catalogue.entriesOf docs inlining heading? (rule, other)) := by
  unfold Catalogue.entriesOf
  split
  · exact .refl _
  · exact Step.SameSolid.append (.refl _) (same.item _)

/-- The documents of a valid grammar with two layouts are equal once line ends and fillers are
deleted. -/
theorem exists_document_withLayout (valid : grammar.validate = .ok ()) (settings : Settings)
    (columnBudget textColumnBudget : Nat) (lineBreaks : List (String × List Nat)) (docs : Docs) :
    ∃ (document other : Document) (tree otherTree : Tree),
      Catalogue.document grammar (settings.withLayout columnBudget textColumnBudget lineBreaks) docs =
          .ok document ∧
        Catalogue.document grammar settings docs = .ok other ∧
          document.treeAt? Document.root = some tree ∧
            other.treeAt? Document.root = some otherTree ∧
              tree.markup.pruned Markup.isLayout = otherTree.markup.pruned Markup.isLayout := by
  obtain ⟨document, other, tree, otherTree, steps, rest, written, other_written, read, other_read,
    same, settled, other_settled⟩ := exists_documents_alike valid (carriesOver_sameSolid docs)
      match_render_withLayout fun inlining entered =>
        ⟨entered.1, fun heading? => entered.entriesOf docs inlining heading?⟩
  refine ⟨document, other, tree, otherTree, written, other_written, read, other_read, ?_⟩
  have contents : Markup.prunedAll Markup.isLayout (Step.markupAll steps) =
      Markup.prunedAll Markup.isLayout (Step.markupAll rest) := same.contents
  rw [settled, other_settled, Markup.inert_isLayout.pruned_settled,
    Markup.inert_isLayout.pruned_settled, Markup.pruned, Markup.pruned, contents]

end
end Catalogue
end Rulebook
