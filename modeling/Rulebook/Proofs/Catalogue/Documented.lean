import Rulebook.Proofs.Catalogue.Parallel
import Rulebook.Proofs.Catalogue.Reading
import Rulebook.Proofs.Document.Pruning

/-!
# Documentation in a catalogue

A store of texts only adds documentation to a catalogue: at the beginning of its sets and before its
items, wherever there is a text for their key.  The rest of the document is that without documentation.
-/

namespace Rulebook
namespace Catalogue

/-! ### Documentation added to a document -/

/-- The documentation of a key, if there is a key and a text for it. -/
def docOf (docs : Docs) (key? : Option String) : List Markup :=
  (key?.bind docs).toList.map fun text => .element "doc" [] [.cdata text]

/-- The key of the text about a rule: the title of the section in which its item stands, a slash and
its name, or its name alone outside any section. -/
def itemKey (heading? : Option String) (name : String) : String :=
  match heading? with
  | some title => title ++ "/" ++ name
  | none => name

theorem ruleKey_eq_itemKey (heading? : Option String) (name : String) :
    ruleKey heading? name = itemKey heading? name := by
  cases heading? <;> rfl

/-- Part of a section: an item behind the documentation of its rule, or anything else alone. -/
def itemWithDoc (docs : Docs) (heading? : Option String) (content : Markup) : List Markup :=
  docOf docs (content.itemName?.join.map (itemKey heading?)) ++ [content]

/-- Part of a document: a set that begins with the documentation of its key and has every item behind
the documentation of its rule, or anything else outside any section. -/
def setWithDocs (docs : Docs) (content : Markup) : List Markup :=
  match content with
  | .element name attributes contents =>
      if name = "set" then
        let key? := attributes.lookup "file-name"
        [.element name attributes (docOf docs key? ++ contents.flatMap (itemWithDoc docs key?))]
      else itemWithDoc docs none content
  | _ => [content]

/-- A document with the documentation of its sets and items. -/
def withDocs (docs : Docs) : Markup → Markup
  | .element name attributes contents =>
      .element name attributes (contents.flatMap (setWithDocs docs))
  | content => content

section

variable {docs : Docs} {usersOf : String → List String}

/-! ### Documentation and lists of users -/

theorem names_docOf (key? : Option String) : Markup.names (docOf docs key?) = [] := by
  rw [docOf]
  cases key?.bind docs <;> rfl

theorem settledAll_docOf (key? : Option String) (behind : List String) :
    Markup.settledAll usersOf behind (docOf docs key?) = docOf docs key? := by
  rw [docOf]
  cases key?.bind docs <;> rfl

theorem names_itemWithDoc (heading? : Option String) (content : Markup) :
    Markup.names (itemWithDoc docs heading? content) = Markup.names [content] := by
  rw [itemWithDoc, Markup.names_append, names_docOf, List.nil_append]

theorem settledAll_itemWithDoc (heading? : Option String) (content : Markup)
    (behind : List String) :
    Markup.settledAll usersOf behind (itemWithDoc docs heading? content) =
      itemWithDoc docs heading? (content.settled usersOf behind) := by
  rw [itemWithDoc, Markup.settledAll_append, settledAll_docOf, itemWithDoc, Markup.itemName?_settled]
  rfl

theorem names_setWithDocs (content : Markup) :
    Markup.names (setWithDocs docs content) = Markup.names [content] := by
  cases content with
  | text | cdata => rfl
  | element name attributes contents =>
      rw [setWithDocs]
      split
      · rw [Markup.names_element, Markup.names_append, names_docOf,
          Markup.names_flatMap (names_itemWithDoc _), List.nil_append, Markup.names_element]
      · exact names_itemWithDoc none _

theorem settledAll_setWithDocs (content : Markup) (behind : List String) :
    Markup.settledAll usersOf behind (setWithDocs docs content) =
      setWithDocs docs (content.settled usersOf behind) := by
  cases content with
  | text | cdata => rfl
  | element name attributes contents =>
      rw [Markup.settled, setWithDocs, setWithDocs]
      split
      · rename_i set
        have silent : Markup.declares? name attributes = none := by
          rw [set]
          rfl
        rw [Markup.settledAll, Markup.settledAll, Markup.settled_element silent,
          Markup.settledAll_append, settledAll_docOf,
          Markup.settledAll_flatMap (names_itemWithDoc _) (settledAll_itemWithDoc _), Markup.usersIn,
          silent, Option.map_none, Option.getD_none, List.append_nil]
        rfl
      · exact settledAll_itemWithDoc none _ behind

/-- Documentation may be added before or after the lists of users are put in. -/
theorem settled_withDocs {name : String} {attributes : List (String × String)}
    (silent : Markup.declares? name attributes = none) (contents : List Markup) :
    (withDocs docs (.element name attributes contents)).settled usersOf [] =
      withDocs docs ((Markup.element name attributes contents).settled usersOf []) := by
  rw [withDocs, Markup.settled_element silent, Markup.settled_element silent, withDocs,
    Markup.settledAll_flatMap names_setWithDocs settledAll_setWithDocs]

/-! ### Documentation taken away -/

theorem prunedAll_docOf (key? : Option String) :
    Markup.prunedAll (Markup.hasTag "doc") (docOf docs key?) = [] := by
  rw [docOf]
  cases key?.bind docs <;> rfl

theorem prunedAll_itemWithDoc (heading? : Option String) (content : Markup) :
    Markup.prunedAll (Markup.hasTag "doc") (itemWithDoc docs heading? content) =
      Markup.prunedAll (Markup.hasTag "doc") [content] := by
  rw [itemWithDoc, Markup.prunedAll_append, prunedAll_docOf, List.nil_append]

theorem prunedAll_setWithDocs (content : Markup) :
    Markup.prunedAll (Markup.hasTag "doc") (setWithDocs docs content) =
      Markup.prunedAll (Markup.hasTag "doc") [content] := by
  cases content with
  | text | cdata => rfl
  | element name attributes contents =>
      rw [setWithDocs]
      split
      · refine Markup.prunedAll_element_congr ?_ rfl
        rw [Markup.prunedAll_append, prunedAll_docOf, List.nil_append]
        exact Markup.prunedAll_flatMap fun part _ => prunedAll_itemWithDoc _ part
      · exact prunedAll_itemWithDoc none _

/-- A document without documentation is what is left when the documentation that was added to it is
deleted. -/
theorem pruned_withDocs {markup : Markup} (plain : Markup.named "doc" markup = []) :
    (withDocs docs markup).pruned (Markup.hasTag "doc") = markup := by
  have added : (withDocs docs markup).pruned (Markup.hasTag "doc") =
      markup.pruned (Markup.hasTag "doc") := by
    cases markup with
    | text | cdata => rfl
    | element name attributes contents =>
        rw [withDocs, Markup.pruned, Markup.pruned,
          Markup.prunedAll_flatMap fun part _ => prunedAll_setWithDocs part]
  rw [added, Markup.pruned_eq_self markup plain]

end

/-! ### Sets with documentation -/

/-- Do some steps write the entries of a section with their documentation, and others write them
without any? -/
structure IsDocumented (docs : Docs) (heading? : Option String) (steps bare : List Step) : Prop where
  /-- The entries have their documentation before them. -/
  markup : Step.markupAll steps = (Step.markupAll bare).flatMap (itemWithDoc docs heading?)
  /-- There are no sets among the entries. -/
  outside : ∀ content ∈ Step.markupAll bare,
    setWithDocs docs content = itemWithDoc docs none content
  /-- The entries have no documentation of their own. -/
  plain : Markup.namedAll "doc" (Step.markupAll bare) = []
  /-- The steps add no attribute. -/
  attributes : steps.filterMap Step.attribute? = [] ∧ bare.filterMap Step.attribute? = []

/-- Do some steps write sets with their documentation, and others write them without any? -/
structure HasDocs (docs : Docs) (steps bare : List Step) : Prop where
  /-- The sets have their documentation. -/
  markup : Step.markupAll steps = (Step.markupAll bare).flatMap (setWithDocs docs)
  /-- The sets have no documentation of their own. -/
  plain : Markup.namedAll "doc" (Step.markupAll bare) = []

section

variable {docs : Docs} {heading? : Option String} {grammar : Grammar} {settings : Settings}
  {kind : RuleKind}

theorem markupAll_documentation (key : String) :
    Step.markupAll (Step.documentation (docs key)) = docOf docs (some key) := by
  rw [docOf, Option.bind_some]
  cases docs key <;> rfl

namespace IsDocumented

theorem nil : IsDocumented docs heading? [] [] :=
  ⟨rfl, nofun, rfl, rfl, rfl⟩

theorem append {steps bare later rest : List Step}
    (documented : IsDocumented docs heading? steps bare)
    (also : IsDocumented docs heading? later rest) :
    IsDocumented docs heading? (steps ++ later) (bare ++ rest) where
  markup := by
    rw [Step.markupAll_append, Step.markupAll_append, List.flatMap_append, documented.markup,
      also.markup]
  outside := by
    rw [Step.markupAll_append]
    exact List.forall_mem_append.mpr ⟨documented.outside, also.outside⟩
  plain := by
    rw [Step.markupAll_append, Markup.namedAll_append, documented.plain, also.plain]
    rfl
  attributes := by
    rw [List.filterMap_append, List.filterMap_append, documented.attributes.1, also.attributes.1,
      documented.attributes.2, also.attributes.2]
    exact ⟨rfl, rfl⟩

/-- What is written of a rule is its item behind the documentation of the rule. -/
theorem itemSteps (docs : Docs) (heading? : Option String) (settings : Settings) (rule : Rule)
    {body : List Step} (contents : ∀ step ∈ body, step.IsContent) :
    IsDocumented docs heading?
      (Catalogue.itemSteps docs heading? rule (entrySteps settings rule.name body))
      (Catalogue.itemSteps Docs.none heading? rule (entrySteps settings rule.name body)) := by
  let helper : List Step :=
    if rule.isFragment then [.element "annotation" [.text "helper"]] else []
  let inner := helper ++ entrySteps settings rule.name body
  let item : Markup := .element "item" (inner.filterMap Step.attribute?) (Step.markupAll inner)
  have written (store : Docs) : Step.markupAll
      (Catalogue.itemSteps store heading? rule (entrySteps settings rule.name body)) =
        docOf store (some (ruleKey heading? rule.name)) ++ [item] := by
    rw [Catalogue.itemSteps, Step.markupAll_append, markupAll_documentation]
    rfl
  have shows (store : Docs) := ShowsItems.itemSteps store heading? settings rule contents
  have named : item.itemName?.join = some rule.name := declaredName?_entrySteps settings rule body
  have plain : Markup.namedAll "doc" [item] = [] := by
    have marked : Markup.namedAll "doc" (Step.markupAll helper) = [] := by
      unfold helper
      split <;> rfl
    have below : Markup.namedAll "doc" (Step.markupAll inner) = [] := by
      rw [Step.markupAll_append, Markup.namedAll_append, marked, plain_entrySteps _ _ contents]
      rfl
    exact (List.append_nil _).trans below
  refine ⟨?_, ?_, ?_, (shows docs).bare, (shows Docs.none).bare⟩
  · have behind : itemWithDoc docs heading? item =
        docOf docs (some (ruleKey heading? rule.name)) ++ [item] := by
      rw [itemWithDoc, named, ruleKey_eq_itemKey]
      rfl
    rw [written docs, written Docs.none, ← behind]
    exact (List.append_nil _).symm
  · rw [written]
    exact List.forall_mem_singleton.mpr rfl
  · rw [written]
    exact plain

/-- What is written of a rendered rule has its documentation before it. -/
theorem entriesOf (docs : Docs) (inlining : Inlining) (heading? : Option String)
    {rendered : Rule × Piece} (entry : IsEntry grammar settings kind rendered) :
    IsDocumented docs heading? (Catalogue.entriesOf docs inlining heading? rendered)
      (Catalogue.entriesOf Docs.none inlining heading? rendered) := by
  obtain ⟨⟨body, contents, steps⟩, -⟩ := entry
  unfold Catalogue.entriesOf
  split
  · exact nil
  · rw [steps]
    exact itemSteps docs heading? settings rendered.1 contents

/-- A section begins with its documentation and has its entries behind theirs. -/
theorem inSection {steps bare : List Step} (documented : IsDocumented docs heading? steps bare) :
    HasDocs docs (Catalogue.inSection docs heading? steps)
      (Catalogue.inSection Docs.none heading? bare) := by
  cases heading? with
  | none =>
      refine ⟨documented.markup.trans ?_, documented.plain⟩
      exact (List.flatMap_congr documented.outside).symm
  | some title =>
      have written (store : Docs) (entries : List Step)
          (attributes : entries.filterMap Step.attribute? = []) :
          Step.markupAll (Catalogue.inSection store (some title) entries) =
            [.element "set" [("file-name", title)]
              (docOf store (some title) ++ Step.markupAll entries)] := by
        have head : (setHead store title ++ entries).filterMap Step.attribute? =
            [("file-name", title)] := by
          have bare : (Step.documentation (store title) ++ entries).filterMap Step.attribute? = [] := by
            rw [List.filterMap_append, (ShowsItems.documentation (store title)).bare, attributes]
            rfl
          exact congrArg (List.cons ("file-name", title)) bare
        rw [Catalogue.inSection, Step.markupAll, Step.markup, head, Step.markupAll_append,
          ← markupAll_documentation]
        rfl
      refine ⟨?_, ?_⟩
      · rw [written docs steps documented.attributes.1, written Docs.none bare documented.attributes.2,
          documented.markup]
        rfl
      · rw [written Docs.none bare documented.attributes.2]
        exact (List.append_nil _).trans documented.plain

end IsDocumented

/-- Documentation of entries carries over to their sets. -/
theorem carriesOver_isDocumented (docs : Docs) :
    CarriesOver docs Docs.none (IsDocumented docs) (HasDocs docs) where
  nil _ := .nil
  append documented also := documented.append also
  inSection documented := documented.inSection
  join := by
    rintro first second later rest ⟨markup, plain⟩ ⟨markup_later, plain_later⟩
    refine ⟨?_, ?_⟩
    · rw [Step.markupAll_append, Step.markupAll_append, List.flatMap_append, markup, markup_later]
    · rw [Step.markupAll_append, Markup.namedAll_append, plain, plain_later]
      rfl

/-- Rendered rules are written alike with documentation and without. -/
theorem writtenAlike_documented (docs : Docs) (inlining : Inlining) {rendered : List (Rule × Piece)}
    (each : ∀ entry ∈ rendered, IsEntry grammar settings kind entry) :
    List.Forall₂ (WrittenAlike docs Docs.none (IsDocumented docs) inlining) rendered rendered :=
  List.forall₂_same.mpr fun entry member =>
    ⟨rfl, fun heading? => .entriesOf docs inlining heading? (each entry member)⟩

end

/-! ### Documentation of a whole catalogue -/

/-- A store of texts adds documentation to the catalogue of a valid grammar and changes nothing else.
The set about the notation comes first, and every set and every item has the text of its key, if there
is one; there is no other documentation. -/
theorem document_withDocs {grammar : Grammar} (valid : grammar.validate = .ok ())
    (settings : Settings) (docs : Docs) :
    ∃ (documented plain : Document) (tree bare : Tree) (sections : List Markup),
      Catalogue.document grammar settings docs = .ok documented ∧
        Catalogue.document grammar settings Docs.none = .ok plain ∧
          documented.treeAt? Document.root = some tree ∧ plain.treeAt? Document.root = some bare ∧
            bare.markup = .element "tokens" []
              (.element "set" [("file-name", "description")] [] :: sections) ∧
              Markup.named "doc" bare.markup = [] ∧
                tree.markup = withDocs docs bare.markup ∧
                  tree.markup.pruned (Markup.hasTag "doc") = bare.markup := by
  obtain ⟨parserPart, lexerPart, afterParser, afterLexer, rendered⟩ :=
    exists_isRendered valid settings
  obtain ⟨documented, tree, written, read, settled⟩ := rendered.exists_settled_tree docs
  obtain ⟨plain, bare, written_bare, read_bare, settled_bare⟩ :=
    rendered.exists_settled_tree Docs.none
  obtain ⟨markup, without⟩ := (carriesOver_isDocumented docs).catalogueSteps
    (writtenAlike_documented docs _ (isEntry_of_renderRules valid rendered.parser_run).2)
    (writtenAlike_documented docs _ (isEntry_of_renderRules valid rendered.lexer_run).2)
  have silent : Markup.declares? "tokens" [] = none := rfl
  have alike : tree.markup = withDocs docs bare.markup := by
    rw [settled, settled_bare, markup, ← settled_withDocs silent, withDocs]
  have undocumented : Markup.named "doc" bare.markup = [] := by
    rw [← List.map_eq_nil_iff, settled_bare, Markup.map_fst_named_settled (by decide) (by decide),
      Markup.named, if_neg (by decide), without, List.map_nil]
  obtain ⟨sections, starts⟩ : ∃ sections, bare.markup = .element "tokens" []
      (.element "set" [("file-name", "description")] [] :: sections) := by
    rw [settled_bare, Markup.settled_element silent, catalogueSteps, Step.markupAll]
    exact ⟨_, rfl⟩
  refine ⟨documented, plain, tree, bare, sections, written, written_bare, read, read_bare, starts,
    undocumented, alike, ?_⟩
  rw [alike, pruned_withDocs undocumented]

/-- Texts about the notation, a section, a rule in it and a rule outside. -/
def markedTexts : Docs :=
  Docs.ofEntries [("description", "n"), ("s", "t"), ("s/q", "u"), ("B", "v"), ("q", "w")]

/-- The item of a rule whose body is one node. -/
def singleItem (name : String) (users : List Markup) (shown : Markup) : Markup :=
  .element "item" [] [
    .element "declaration" [("name", name)] users,
    .element "description" [] [
      .element "string" [] [.cdata "&nbsp;&nbsp;"], .element "symbol" [] [.cdata ":"],
      .element "string" [] [.cdata "&nbsp;"], shown, .element "crlf" [] [],
      .element "string" [] [.cdata "&nbsp;&nbsp;"], .element "other" [] [.text ";"]]]

/-- There is no text for the first rule of the section, and the text for the second one without its
section is not shown. -/
theorem document_withDocs_markedRule :
    ∃ (documented plain : Document) (tree bare : Tree),
      Catalogue.document markedRule {} markedTexts = .ok documented ∧
        Catalogue.document markedRule {} Docs.none = .ok plain ∧
          documented.treeAt? Document.root = some tree ∧ plain.treeAt? Document.root = some bare ∧
            tree.markup = withDocs markedTexts bare.markup ∧
              tree.markup = .element "tokens" [] [
                .element "set" [("file-name", "description")] [.element "doc" [] [.cdata "n"]],
                .element "set" [("file-name", "s")] [
                  .element "doc" [] [.cdata "t"],
                  singleItem "r" [] (.element "identifier" [("name", "B")] []),
                  .element "doc" [] [.cdata "u"],
                  singleItem "q" [] (.element "identifier" [("name", "B")] [])],
                .element "doc" [] [.cdata "v"],
                singleItem "B"
                  [.element "usages" [] [.element "declaration" [] [.text "r"],
                    .element "declaration" [] [.text "q"]]]
                  (.element "string" [] [.cdata "[b]"])] := by
  have valid : markedRule.validate = .ok () := Grammar.validate_of_ofTexts ofTexts_markedRule
  obtain ⟨documented, plain, tree, bare, sections, written, written_bare, read, read_bare, -, -, alike,
    -⟩ := document_withDocs valid {} markedTexts
  refine ⟨documented, plain, tree, bare, written, written_bare, read, read_bare, alike, ?_⟩
  apply Option.some.inj
  have shown : some tree.markup = ((Catalogue.document markedRule {} markedTexts).toOption.bind
      (·.treeAt? Document.root)).map Tree.markup := by
    rw [written, Except.toOption, Option.bind_some, read, Option.map_some]
  rw [shown]
  decide +kernel

end Catalogue
end Rulebook
