import Rulebook.Proofs.Catalogue.Contents
import Rulebook.Proofs.Catalogue.Sets
import Rulebook.Proofs.Document.Placement
import Rulebook.Proofs.Grammar.Sections
import Rulebook.Proofs.Notation.Accepted

/-!
# Where the rules of a catalogue stand

Every rule that has an entry stands in the set of the section that the last rendered rule has opened.
A section that only a rule left out opens is lost, and the rules after it stand where they would
without its marker.
-/

namespace Rulebook
namespace Catalogue

/-! ### Entries in sets -/

/-- Behind the marks of an item stands the declaration of its rule. -/
theorem declaredName?_entrySteps (settings : Settings) (rule : Rule) (body : List Step) :
    Markup.declaredName? (Step.markupAll
      ((if rule.isFragment then [Step.element "annotation" [.text "helper"]] else []) ++
        entrySteps settings rule.name body)) = some rule.name := by
  unfold entrySteps Piece.startMark
  split <;> split <;> rfl

/-- Do steps write the items of rules with some names, and nothing else that counts as an item? -/
structure ShowsItems (steps : List Step) (names : List String) : Prop where
  /-- The steps can be done in any element. -/
  placed : ∀ tag, ∀ step ∈ steps, step.Placed tag
  /-- The steps add no attribute. -/
  bare : steps.filterMap Step.attribute? = []
  /-- The items in a set. -/
  items : (Step.markupAll steps).filterMap Markup.itemName? = names.map some
  /-- The items at the top. -/
  tops : (Step.markupAll steps).flatMap Markup.placed = names.map fun name => (none, some name)

namespace ShowsItems

theorem nil : ShowsItems [] [] where
  placed _ := nofun
  bare := rfl
  items := rfl
  tops := rfl

theorem append {first second : List Step} {names more : List String}
    (shows : ShowsItems first names) (also : ShowsItems second more) :
    ShowsItems (first ++ second) (names ++ more) where
  placed tag := List.forall_mem_append.mpr ⟨shows.placed tag, also.placed tag⟩
  bare := by rw [List.filterMap_append, shows.bare, also.bare, List.append_nil]
  items := by
    simp only [Step.markupAll_eq, List.flatMap_append, List.filterMap_append, List.map_append]
    rw [← Step.markupAll_eq, ← Step.markupAll_eq, shows.items, also.items]
  tops := by
    simp only [Step.markupAll_eq, List.flatMap_append, List.map_append]
    rw [← Step.markupAll_eq, ← Step.markupAll_eq, shows.tops, also.tops]

theorem documentation (text? : Option String) : ShowsItems (Step.documentation text?) [] := by
  cases text? with
  | none => exact nil
  | some text =>
      refine ⟨fun tag => ?_, rfl, rfl, rfl⟩
      exact List.forall_mem_singleton.mpr (.element (List.forall_mem_singleton.mpr (.cdata _ text)))

/-- What is written of a rule holds one item, which declares the rule. -/
theorem itemSteps (docs : Docs) (heading? : Option String) (settings : Settings) (rule : Rule)
    {body : List Step} (contents : ∀ step ∈ body, step.IsContent) :
    ShowsItems (Catalogue.itemSteps docs heading? rule (entrySteps settings rule.name body))
      [rule.name] := by
  let helper : List Step :=
    if rule.isFragment then [.element "annotation" [.text "helper"]] else []
  let inner := helper ++ entrySteps settings rule.name body
  have placed_inner : ∀ step ∈ inner, step.Placed "item" := by
    refine List.forall_mem_append.mpr ⟨?_, placed_entrySteps settings rule.name contents⟩
    unfold helper
    split
    · exact List.forall_mem_singleton.mpr (.element (List.forall_mem_singleton.mpr (.text _ "helper")))
    · exact nofun
  have declares : Markup.declaredName? (Step.markupAll inner) = some rule.name :=
    declaredName?_entrySteps settings rule body
  have item : ShowsItems [.element "item" inner] [rule.name] := by
    refine ⟨fun tag => List.forall_mem_singleton.mpr (.element placed_inner), rfl, ?_, ?_⟩
    · simp [Step.markupAll, Step.markup, Markup.itemName?, declares]
    · simp [Step.markupAll, Step.markup, Markup.placed, declares]
  exact (documentation (docs (ruleKey heading? rule.name))).append item

/-- A section holds the items of its entries. -/
theorem placed_inSection (docs : Docs) (heading? : Option String) {entries : List Step}
    {names : List String} (shows : ShowsItems entries names) :
    (∀ step ∈ inSection docs heading? entries, step.Placed "tokens") ∧
      (Step.markupAll (inSection docs heading? entries)).flatMap Markup.placed =
        names.map fun name => (heading?, some name) := by
  cases heading? with
  | none => exact ⟨shows.placed "tokens", shows.tops⟩
  | some title =>
      have head := documentation (docs title)
      have whole := head.append shows
      have attributes : (setHead docs title ++ entries).filterMap Step.attribute? =
          [("file-name", title)] :=
        congrArg (List.cons ("file-name", title)) whole.bare
      have contents : Step.markupAll (setHead docs title ++ entries) =
          Step.markupAll (Step.documentation (docs title) ++ entries) := rfl
      refine ⟨List.forall_mem_singleton.mpr (.element (List.forall_mem_cons.mpr ⟨?_, ?_⟩)), ?_⟩
      · exact .setAttribute _ "file-name" title
      · exact whole.placed "set"
      · simp only [inSection, Step.markupAll, Step.markup, attributes, contents, List.append_nil,
          List.flatMap_singleton, Markup.placed]
        simp [whole.items]

end ShowsItems

/-- Is a rendered rule the entry of the rule, with the section that the rule opens? -/
def IsEntry (grammar : Grammar) (settings : Settings) (kind : RuleKind) (rendered : Rule × Piece) :
    Prop :=
  (∃ body : List Step, (∀ step ∈ body, step.IsContent) ∧
      rendered.2.steps = entrySteps settings rendered.1.name body) ∧
    rendered.2.heading? = grammar.openedBy? settings kind rendered.1

theorem showsItems_entriesOf {grammar : Grammar} {settings : Settings} {kind : RuleKind}
    (docs : Docs) (inlining : Inlining) (heading? : Option String) {rendered : Rule × Piece}
    (entry : IsEntry grammar settings kind rendered) :
    ShowsItems (entriesOf docs inlining heading? rendered)
      (if inlining.absorbs rendered.1.name then [] else [rendered.1.name]) := by
  obtain ⟨⟨body, contents, steps⟩, -⟩ := entry
  unfold entriesOf
  split
  · exact .nil
  · rw [steps]
    exact .itemSteps docs heading? settings rendered.1 contents

/-- The items of rules stand in the sections that are opened last before them. -/
theorem placed_sets {grammar : Grammar} {settings : Settings} {kind : RuleKind} (docs : Docs)
    (inlining : Inlining) {rendered : List (Rule × Piece)}
    (each : ∀ entry ∈ rendered, IsEntry grammar settings kind entry) (heading? : Option String)
    {entries : List Step} {names : List String} (shows : ShowsItems entries names) :
    (∀ step ∈ sets docs inlining heading? entries rendered, step.Placed "tokens") ∧
      (Step.markupAll (sets docs inlining heading? entries rendered)).flatMap Markup.placed =
        (names.map fun name => (heading?, some name)) ++
          Section.placementsFrom (grammar.openedBy? settings kind)
            (fun rule => !inlining.absorbs rule.name) heading? (rendered.map Prod.fst) := by
  induction rendered generalizing heading? entries names with
  | nil => simpa [sets, Section.placementsFrom] using shows.placed_inSection docs heading?
  | cons first later induction =>
      rw [List.forall_mem_cons] at each
      have own (section? : Option String) := showsItems_entriesOf docs inlining section? each.1
      have opened := each.1.2
      rw [sets, List.map_cons, Section.placementsFrom, ← opened]
      cases first.2.heading? with
      | some title =>
          obtain ⟨closed, before⟩ := shows.placed_inSection docs heading?
          obtain ⟨placed, after⟩ := induction each.2 (some title) (own (some title))
          refine ⟨List.forall_mem_append.mpr ⟨closed, placed⟩, ?_⟩
          rw [Step.markupAll_eq, List.flatMap_append, List.flatMap_append, ← Step.markupAll_eq,
            ← Step.markupAll_eq, before, after]
          cases inlining.absorbs first.1.name <;> rfl
      | none =>
          obtain ⟨placed, after⟩ := induction each.2 heading? (shows.append (own heading?))
          refine ⟨placed, ?_⟩
          dsimp only
          rw [after, List.map_append, List.append_assoc]
          cases inlining.absorbs first.1.name <;> rfl

/-- Rules of a valid namespace are rendered to their entries. -/
theorem isEntry_of_renderRules {grammar : Grammar} {settings : Settings} {kind : RuleKind}
    (valid : grammar.validate = .ok ()) {state reached : State} {rendered : List (Rule × Piece)}
    (run : (renderRules (renderer grammar settings) (grammar.renderedRules settings kind)).run state =
      .ok (rendered, reached)) :
    rendered.map Prod.fst = grammar.renderedRules settings kind ∧
      ∀ entry ∈ rendered, IsEntry grammar settings kind entry := by
  obtain ⟨same, each⟩ := renderRules_eq_ok (renderer grammar settings) run
  refine ⟨same, fun entry member => ?_⟩
  obtain ⟨start, stop, alone⟩ := each entry member
  obtain ⟨body, contents, steps, heading⟩ := entry_of_render alone
  have filed : entry.1.kind = kind := by
    have listed : entry.1 ∈ grammar.renderedRules settings kind :=
      same ▸ List.mem_map_of_mem member
    obtain ⟨declared, present, remains⟩ := Grammar.exists_declared_of_mem_renderedRules listed
    have own := ((Grammar.validate_eq_ok.mp valid kind).2 declared present).kind_eq
    rcases remains with whole | without
    · exact whole ▸ own
    · exact without ▸ own
  exact ⟨⟨body, contents, steps⟩, heading.trans (by rw [filed]; rfl)⟩

/-- Does a declared rule have an entry, given what has been absorbed when it is written? -/
def lists (settings : Settings) (kind : RuleKind) (inlining : Inlining) (rule : Rule) : Bool :=
  settings.renders kind rule && !inlining.absorbs rule.name

/-- The sections of rendered rules are those that only rendered rules open. -/
theorem placementsFrom_renderedRules (grammar : Grammar) (settings : Settings) (kind : RuleKind)
    (inlining : Inlining) :
    Section.placementsFrom (grammar.openedBy? settings kind) (fun rule => !inlining.absorbs rule.name)
        none (grammar.renderedRules settings kind) =
      Section.placements (Section.keptOpened? (grammar.openedBy? settings kind) (settings.renders kind))
        (lists settings kind inlining) (grammar.rules kind) := by
  have line (rule : Rule) : (settings.remainder rule).line = rule.line := by
    unfold Settings.remainder
    split <;> rfl
  have name (rule : Rule) : (settings.remainder rule).name = rule.name := by
    unfold Settings.remainder
    split <;> rfl
  rw [Grammar.renderedRules_eq, Section.placementsFrom_map, Section.placementsFrom_filter,
    Section.placements_eq_placementsFrom]
  · rfl
  · exact fun rule => by rw [Grammar.openedBy?, line, Grammar.openedBy?]
  · exact fun rule => by rw [name]
  · exact name

/-- The steps that write a whole catalogue, given the rendered rules of both namespaces and what has
been absorbed when they are written. -/
def catalogueSteps (docs : Docs) (parserInlining lexerInlining : Inlining)
    (parserPart lexerPart : List (Rule × Piece)) : List Step :=
  notationSet docs ::
    (sets docs parserInlining none [] parserPart ++ sets docs lexerInlining none [] lexerPart)

/-- A catalogue is built by writing all its sets. -/
theorem document_eq {grammar : Grammar} {settings : Settings} (docs : Docs)
    {parserPart lexerPart : List (Rule × Piece)} {afterParser afterLexer : State}
    (parser_run : (renderRules (renderer grammar settings)
      (grammar.renderedRules settings .parser)).run {} = .ok (parserPart, afterParser))
    (lexer_run : (renderRules (renderer grammar settings)
      (grammar.renderedRules settings .lexer)).run afterParser = .ok (lexerPart, afterLexer)) :
    Catalogue.document grammar settings docs = .ok (Builder.performAll
      (catalogueSteps docs afterParser.inlining afterLexer.inlining parserPart lexerPart)
      (Builder.new "tokens")).finish := by
  let noted := Builder.perform (notationSet docs) (Builder.new "tokens")
  have at_root : noted.current = Document.root :=
    Builder.current_performAll [notationSet docs] (Builder.new "tokens")
  have built : build grammar settings docs =
      .ok (emitRules docs afterLexer.inlining lexerPart
        (emitRules docs afterParser.inlining parserPart noted)) := by
    unfold build
    refine Except.bind_eq_ok.mpr ⟨_, parser_run, ?_⟩
    exact Except.bind_eq_ok.mpr ⟨_, lexer_run, rfl⟩
  rw [emitRules_eq_performAll at_root, emitRules_eq_performAll
    ((Builder.current_performAll _ _).trans at_root), ← Builder.performAll_append] at built
  rw [Catalogue.document, built]
  rfl

/-- The items of a whole catalogue. -/
theorem placed_catalogueSteps {grammar : Grammar} {settings : Settings} (docs : Docs)
    (parserInlining lexerInlining : Inlining) {parserPart lexerPart : List (Rule × Piece)}
    (parser_entries : ∀ entry ∈ parserPart, IsEntry grammar settings .parser entry)
    (lexer_entries : ∀ entry ∈ lexerPart, IsEntry grammar settings .lexer entry) :
    (∀ step ∈ catalogueSteps docs parserInlining lexerInlining parserPart lexerPart,
        step.Placed "tokens") ∧
      (Step.markupAll (catalogueSteps docs parserInlining lexerInlining parserPart
          lexerPart)).flatMap Markup.placed =
        Section.placementsFrom (grammar.openedBy? settings .parser)
            (fun rule => !parserInlining.absorbs rule.name) none (parserPart.map Prod.fst) ++
          Section.placementsFrom (grammar.openedBy? settings .lexer)
            (fun rule => !lexerInlining.absorbs rule.name) none (lexerPart.map Prod.fst) := by
  obtain ⟨note_placed, empty⟩ := ShowsItems.nil.placed_inSection docs (some notationKey)
  obtain ⟨parser_placed, parser_items⟩ := placed_sets docs parserInlining parser_entries none .nil
  obtain ⟨lexer_placed, lexer_items⟩ := placed_sets docs lexerInlining lexer_entries none .nil
  rw [inSection_notationKey] at note_placed empty
  refine ⟨List.forall_mem_append.mpr ⟨note_placed, List.forall_mem_append.mpr
    ⟨parser_placed, lexer_placed⟩⟩, ?_⟩
  have parts : catalogueSteps docs parserInlining lexerInlining parserPart lexerPart =
      [notationSet docs] ++ (sets docs parserInlining none [] parserPart ++
        sets docs lexerInlining none [] lexerPart) := rfl
  simp only [parts, Step.markupAll_eq, List.flatMap_append] at empty parser_items lexer_items ⊢
  rw [empty, parser_items, lexer_items]
  rfl

/-- The listed rules of both namespaces, each with the section that is opened last at or before it.
What has been absorbed when a namespace is written, and which section a rule opens, may differ from
one namespace to the other. -/
def listedPlacements (grammar : Grammar) (settings : Settings) (inlining : RuleKind → Inlining)
    (opened? : RuleKind → Rule → Option String) : List (Option String × Option String) :=
  [RuleKind.parser, RuleKind.lexer].flatMap fun kind =>
    Section.placements (opened? kind) (lists settings kind (inlining kind)) (grammar.rules kind)

theorem listedPlacements_kept_eq_iff {grammar : Grammar} {settings : Settings}
    {inlining : RuleKind → Inlining} :
    listedPlacements grammar settings inlining (fun kind =>
        Section.keptOpened? (grammar.openedBy? settings kind) (settings.renders kind)) =
      listedPlacements grammar settings inlining (grammar.openedBy? settings) ↔
      ∀ kind row, row <+: grammar.rules kind → ∀ rule ∈ row.getLast?,
        lists settings kind (inlining kind) rule = true →
          Section.KeepsSection (grammar.openedBy? settings kind) (settings.renders kind) row := by
  simp only [listedPlacements, List.flatMap_cons, List.flatMap_nil, List.append_nil]
  constructor
  · intro same kind
    obtain ⟨parser, lexer⟩ := List.append_inj same (by
      rw [Section.length_placements, Section.length_placements])
    cases kind with
    | parser => exact Section.placements_kept_eq_iff.mp parser
    | lexer => exact Section.placements_kept_eq_iff.mp lexer
  · intro keeps
    rw [Section.placements_kept_eq_iff.mpr (keeps .parser),
      Section.placements_kept_eq_iff.mpr (keeps .lexer)]

/-- A rule opens the section that is named by the line which stands in the text of its namespace the
offset of the settings above it.  In a grammar that is read from two texts, the catalogue is written.  It
holds an item for every rule that is rendered and not absorbed, in order, in the set of the section that
the last rendered rule opens.  That is the section which the last declared rule opens if and only if no
section is lost with a rule that is left out. -/
theorem placements_document {parserText lexerText : String} {grammar : Grammar}
    (read : Grammar.ofTexts parserText lexerText = .ok grammar) (settings : Settings) (docs : Docs) :
    (∀ kind rule title, grammar.openedBy? settings kind rule = some title ↔
      ∃ above line, rule.line = above + 1 + settings.sectionMarkerOffset ∧
        (Text.lines (kind.textOf parserText lexerText))[above]? = some line ∧
          Section.Names line title) ∧
    ∃ (parserPart lexerPart : List (Rule × Piece)) (reached : RuleKind → State)
        (document : Document) (tree : Tree),
      (renderRules (renderer grammar settings) (grammar.renderedRules settings .parser)).run {} =
          .ok (parserPart, reached .parser) ∧
        (renderRules (renderer grammar settings) (grammar.renderedRules settings .lexer)).run
            (reached .parser) = .ok (lexerPart, reached .lexer) ∧
          Catalogue.document grammar settings docs = .ok document ∧
            document.treeAt? Document.root = some tree ∧
              tree.markup.placements = listedPlacements grammar settings
                (fun kind => (reached kind).inlining) (fun kind =>
                  Section.keptOpened? (grammar.openedBy? settings kind) (settings.renders kind)) ∧
                (tree.markup.placements = listedPlacements grammar settings
                    (fun kind => (reached kind).inlining) (grammar.openedBy? settings) ↔
                  ∀ kind row, row <+: grammar.rules kind → ∀ rule ∈ row.getLast?,
                    lists settings kind (reached kind).inlining rule = true →
                      Section.KeepsSection (grammar.openedBy? settings kind)
                        (settings.renders kind) row) := by
  have valid := Grammar.validate_of_ofTexts read
  have complete (kind : RuleKind) : ∀ rule ∈ grammar.renderedRules settings kind,
      rule.body.HasOperands := fun rule => Grammar.hasOperands_of_mem_renderedRules valid
  obtain ⟨⟨parserPart, afterParser⟩, parser_run⟩ :=
    renderRules_succeeds (renderer grammar settings) (complete .parser) {}
  obtain ⟨⟨lexerPart, afterLexer⟩, lexer_run⟩ :=
    renderRules_succeeds (renderer grammar settings) (complete .lexer) afterParser
  let reached (kind : RuleKind) : State := if kind = .parser then afterParser else afterLexer
  obtain ⟨parser_rules, parser_entries⟩ := isEntry_of_renderRules valid parser_run
  obtain ⟨lexer_rules, lexer_entries⟩ := isEntry_of_renderRules valid lexer_run
  obtain ⟨placed, items⟩ := placed_catalogueSteps docs afterParser.inlining afterLexer.inlining
    parser_entries lexer_entries
  obtain ⟨tree, read_back, written⟩ := Builder.exists_tree_of_finish placed
  have placements : tree.markup.placements = listedPlacements grammar settings
      (fun kind => (reached kind).inlining) fun kind =>
        Section.keptOpened? (grammar.openedBy? settings kind) (settings.renders kind) := by
    rw [Markup.placements_eq_of_withoutUsers_eq (by decide) written, items, parser_rules, lexer_rules,
      placementsFrom_renderedRules, placementsFrom_renderedRules]
    simp [listedPlacements, reached, Grammar.rules]
  refine ⟨fun kind _ _ => Grammar.source_of_ofTexts read kind ▸ Grammar.openedBy?_eq_some_iff, parserPart, lexerPart, reached, _, tree,
    parser_run, lexer_run, document_eq docs parser_run lexer_run, read_back, placements, ?_⟩
  rw [placements]
  exact listedPlacements_kept_eq_iff

/-- A grammar whose first rule stands below a section marker. -/
def markedRule : Grammar :=
  { parserRules := [
      { name := "r", kind := .parser, line := 4, body := Notation.choiceOf [[Node.token "B"]] },
      { name := "q", kind := .parser, line := 5, body := Notation.choiceOf [[Node.token "B"]] }]
    lexerRules := [{
      name := "B", kind := .lexer, line := 1
      body := Notation.choiceOf [[Node.leaf (.charSet "b")]] }]
    parserSource :=
      ["parser grammar P \x7b", "// SECTION: s", "", "r : B ;", "q : B ;", "\x7d"]
    lexerSource := ["lexer grammar L \x7b B : [\"b\"] ; \x7d"] }

theorem ofTexts_markedRule :
    Grammar.ofTexts "parser grammar P \x7b\n// SECTION: s\n\nr : B ;\nq : B ;\n\x7d"
      "lexer grammar L \x7b B : [\"b\"] ; \x7d" = .ok markedRule := by
  decide +kernel

/-- The rule that opens the section stands in it, and so does the rule behind it. -/
theorem placements_document_markedRule :
    markedRule.openedBy? {} .parser markedRule.parserRules[0] = some "s" ∧
      ∃ (reached : RuleKind → State) (document : Document) (tree : Tree),
        Catalogue.document markedRule {} Docs.none = .ok document ∧
          document.treeAt? Document.root = some tree ∧
            tree.markup.placements = listedPlacements markedRule {}
                (fun kind => (reached kind).inlining) (fun kind =>
                  Section.keptOpened? (markedRule.openedBy? {} kind) (Settings.renders {} kind)) ∧
              tree.markup.placements = [(some "s", some "r"), (some "s", some "q"), (none, some "B")] := by
  obtain ⟨opens, _, _, reached, document, tree, -, -, written, read_back, placements, -⟩ :=
    placements_document ofTexts_markedRule {} Docs.none
  refine ⟨(opens _ _ _).mpr ⟨1, "// SECTION: s", rfl, by decide +kernel, [], rfl, nofun,
    by decide +kernel⟩,
    reached, document, tree, written, read_back, placements, ?_⟩
  apply Option.some.inj
  have shown : some tree.markup.placements = ((Catalogue.document markedRule {} Docs.none).toOption.bind
      (·.treeAt? Document.root)).map fun tree => tree.markup.placements := by
    rw [written, Except.toOption, Option.bind_some, read_back, Option.map_some]
  rw [shown]
  decide +kernel

/-- A rule can stand outside the section that was opened last before it, if the rule that opens
the section is excluded. -/
theorem not_forall_item_in_last_section :
    ¬ ∀ (parserText lexerText : String) (grammar : Grammar),
      Grammar.ofTexts parserText lexerText = .ok grammar →
        ∀ (settings : Settings) (docs : Docs) (document : Document) (tree : Tree),
          Catalogue.document grammar settings docs = .ok document →
            document.treeAt? Document.root = some tree →
              ∀ (kind : RuleKind) (row : List Rule), row <+: grammar.rules kind →
                ∀ rule ∈ row.getLast?, ∀ heading? : Option String,
                  (heading?, some rule.name) ∈ tree.markup.placements →
                    heading? = Section.lastOpened? (grammar.openedBy? settings kind) row := by
  intro in_section
  let settings : Settings := { excludedRules := ["r"] }
  have items : (((Catalogue.document markedRule settings Docs.none).toOption.bind
      (·.treeAt? Document.root)).map fun tree => tree.markup.placements) =
        some [(none, some "q"), (none, some "B")] := by
    decide +kernel
  obtain ⟨tree, found, placements⟩ := Option.map_eq_some_iff.mp items
  obtain ⟨document, written, read_back⟩ := Option.bind_eq_some_iff.mp found
  have whole : Catalogue.document markedRule settings Docs.none = .ok document := by
    cases outcome : Catalogue.document markedRule settings Docs.none with
    | error fault => simp [outcome, Except.toOption] at written
    | ok result => simpa [outcome, Except.toOption] using written
  have same := in_section _ _ _ ofTexts_markedRule settings Docs.none document tree whole read_back
    .parser markedRule.parserRules (List.prefix_refl _) markedRule.parserRules[1]
    (by decide +kernel) none (placements ▸ List.mem_cons_self)
  revert same
  decide +kernel

end Catalogue
end Rulebook
