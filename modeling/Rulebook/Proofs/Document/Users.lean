import Rulebook.Proofs.Document.Reading

/-!
# Lists of users

When a document is finished, lists of users are added to declarations.  Apart from them the document
reads as before.
-/

namespace Rulebook

namespace Markup

mutual

/-- Markup without what its declarations contain. -/
def withoutUsers : Markup → Markup
  | .element name attributes contents =>
      .element name attributes (if name = "declaration" then [] else withoutUsersAll contents)
  | .text value => .text value
  | .cdata value => .cdata value

/-- A row of markup without what its declarations contain. -/
def withoutUsersAll : List Markup → List Markup
  | [] => []
  | markup :: later => withoutUsers markup :: withoutUsersAll later

end

theorem withoutUsersAll_eq (contents : List Markup) :
    withoutUsersAll contents = contents.map withoutUsers := by
  induction contents with
  | nil => rfl
  | cons markup contents induction => rw [withoutUsersAll, induction, List.map_cons]

end Markup

namespace Document

/-- Two documents of which the second is the first with more in some declarations. -/
structure Amends (before after : Document) : Prop where
  /-- Every element keeps its name. -/
  exists_name : ∀ {id : ElementId} {element : Element}, before.get? id = some element →
    ∃ later, after.get? id = some later ∧ later.name = element.name
  /-- What reads as some markup differs from it only inside declarations. -/
  exists_holds : ∀ {low : ElementId} {content : Content} {markup : Markup},
    before.Holds low content markup →
      ∃ amended, after.Holds low content amended ∧ amended.withoutUsers = markup.withoutUsers

theorem Amends.refl (document : Document) : Amends document document where
  exists_name found := ⟨_, found, rfl⟩
  exists_holds holds := ⟨_, holds, rfl⟩

theorem Amends.trans {before middle after : Document} (first : Amends before middle)
    (second : Amends middle after) : Amends before after where
  exists_name found := by
    obtain ⟨_, halfway, named⟩ := first.exists_name found
    obtain ⟨later, still, same⟩ := second.exists_name halfway
    exact ⟨later, still, same.trans named⟩
  exists_holds holds := by
    obtain ⟨_, halfway, alike⟩ := first.exists_holds holds
    obtain ⟨amended, still, same⟩ := second.exists_holds halfway
    exact ⟨amended, still, same.trans alike⟩

section

variable {before after : Document} {place : ElementId} {declaration : Element}
  {added : List Content} {more : List Markup}

mutual

/-- Growth of a declaration changes markup only inside the declaration. -/
theorem Holds.amended (found : before.get? place = some declaration)
    (named : declaration.name = "declaration") (grows : before.Grows place after [] added)
    (written : after.HoldsAll before.size added more) {low : ElementId} :
    ∀ {content : Content} {markup : Markup}, before.Holds low content markup →
      ∃ amended, after.Holds low content amended ∧ amended.withoutUsers = markup.withoutUsers
  | .element id, .element name attributes contents, holds => by
      obtain ⟨fresh, element, present, rfl, rfl, inner⟩ := holds
      obtain ⟨amended, inner_after, same⟩ := HoldsAll.amended found named grows written inner
      have inside := lt_of_get?_eq_some present
      by_cases here : id = place
      · subst here
        cases Option.some.inj (found.symm.trans present)
        refine ⟨.element declaration.name declaration.attributes.toList (amended ++ more), ⟨fresh, _, grows.extended _ present, rfl,
          by simp [Element.extend], ?_⟩, ?_⟩
        · simp only [Element.extend, Array.toList_append]
          exact inner_after.append (written.frame inside fun _ _ _ same => same)
        · rw [Markup.withoutUsers, Markup.withoutUsers, if_pos named, if_pos named]
      · refine ⟨.element _ _ amended, ⟨fresh, element, ?_, rfl, rfl, inner_after⟩, ?_⟩
        · exact (grows.unchanged id inside here).trans present
        · rw [Markup.withoutUsers, Markup.withoutUsers, same]
  | .text value, .text shown, holds => ⟨.text shown, holds, rfl⟩
  | .cdata value, .cdata shown, holds => ⟨.cdata shown, holds, rfl⟩

theorem HoldsAll.amended (found : before.get? place = some declaration)
    (named : declaration.name = "declaration") (grows : before.Grows place after [] added)
    (written : after.HoldsAll before.size added more) {low : ElementId} :
    ∀ {contents : List Content} {markups : List Markup}, before.HoldsAll low contents markups →
      ∃ amended, after.HoldsAll low contents amended ∧
        Markup.withoutUsersAll amended = Markup.withoutUsersAll markups
  | [], [], _ => ⟨[], trivial, rfl⟩
  | content :: contents, markup :: markups, holds => by
      obtain ⟨first, head, same⟩ := Holds.amended found named grows written holds.1
      obtain ⟨others, tail, alike⟩ := HoldsAll.amended found named grows written holds.2
      refine ⟨first :: others, ⟨head, tail⟩, ?_⟩
      rw [Markup.withoutUsersAll, Markup.withoutUsersAll, same, alike]

end

end

theorem amends_of_grows {before after : Document} {place : ElementId} {declaration : Element}
    {added : List Content} {more : List Markup} (found : before.get? place = some declaration)
    (named : declaration.name = "declaration") (grows : before.Grows place after [] added)
    (written : after.HoldsAll before.size added more) : Amends before after where
  exists_name found := grows.exists_name found
  exists_holds holds := Holds.amended found named grows written holds

end Document

namespace UsageIndex

/-- The step that adds a list of users. -/
def usersStep (users : List String) : Step :=
  .element "usages" (users.map fun user => .element "declaration" [.text user])

theorem performAll_users (users : List String) (document : Document) (usages : ElementId)
    (cursor : List ElementId) (index : UsageIndex) :
    Builder.performAll (users.map fun user => .element "declaration" [.text user])
        ⟨document, usages :: cursor, index⟩ =
      ⟨users.foldl (appendUser usages) document, usages :: cursor, index⟩ := by
  induction users generalizing document with
  | nil => rfl
  | cons user users induction =>
      rw [List.map_cons, Builder.performAll, List.foldl_cons, ← induction]
      rfl

/-- To flush a record is to write its users into its declaration. -/
theorem flushRecord_eq {usage : UsageRecord} {anchor : ElementId} (anchored : usage.anchor? = some anchor)
    (used : usage.users.isEmpty = false) (document : Document) :
    flushRecord document usage =
      (Builder.perform (.within anchor [usersStep usage.users]) ⟨document, [], {}⟩).document := by
  have written := performAll_users usage.users (document.appendElement anchor "usages").2
    document.size [anchor] {}
  simp only [flushRecord, anchored, used]
  exact (congrArg Builder.document written).symm

theorem amends_flushRecord {document : Document} {usage : UsageRecord}
    (declared : ∀ anchor ∈ usage.anchor?,
      ∃ element, document.get? anchor = some element ∧ element.name = "declaration") :
    document.Amends (flushRecord document usage) := by
  cases anchored : usage.anchor? with
  | none =>
      rw [flushRecord, anchored]
      exact .refl document
  | some anchor =>
      cases used : usage.users.isEmpty with
      | true =>
          simp only [flushRecord, anchored, used, if_true]
          exact .refl document
      | false =>
          obtain ⟨element, found, named⟩ := declared anchor anchored
          have placed : ∀ step ∈ [usersStep usage.users], step.Placed "declaration" := by
            refine List.forall_mem_singleton.mpr (.element (List.forall_mem_map.mpr fun user _ => ?_))
            exact .element (List.forall_mem_singleton.mpr (.text _ user))
          have writes := Builder.writes_within placed ⟨document, [], {}⟩ found named
          obtain ⟨added, grows, holds⟩ := writes.grown
          rw [flushRecord_eq anchored used]
          exact Document.amends_of_grows found named grows holds

/-- To flush an index whose anchors are declarations amends declarations only. -/
theorem Anchored.amends_flush {index : UsageIndex} {document : Document}
    (anchored : index.Anchored document) : document.Amends (index.flush document) := by
  obtain ⟨entries⟩ := index
  simp only [flush, Anchored] at anchored ⊢
  induction entries generalizing document with
  | nil => exact .refl document
  | cons entry entries induction =>
      rw [List.forall_mem_cons] at anchored
      have first := amends_flushRecord anchored.1
      refine first.trans (induction fun other member anchor declared => ?_)
      obtain ⟨element, found, named⟩ := anchored.2 other member anchor declared
      obtain ⟨later, still, same⟩ := first.exists_name found
      exact ⟨later, still, same.trans named⟩

end UsageIndex

/-- Steps that are done in a new document read as the markup that they write, apart from the lists of
users. -/
theorem Builder.exists_tree_of_finish {tag : String} {steps : List Step}
    (placed : ∀ step ∈ steps, step.Placed tag) :
    ∃ tree, (Builder.performAll steps (Builder.new tag)).finish.treeAt? Document.root = some tree ∧
      tree.markup.withoutUsers =
        (Markup.element tag (steps.filterMap Step.attribute?) (Step.markupAll steps)).withoutUsers := by
  have start : (Builder.new tag).document.get? Document.root = some { name := tag } := rfl
  have anchored := (writes_of_placed placed (Builder.new tag) start rfl).anchored nofun
  obtain ⟨amended, holds, same⟩ :=
    anchored.amends_flush.exists_holds (Builder.holds_performAll_new placed)
  obtain ⟨tree, read, written⟩ := holds.treeAt?
  exact ⟨tree, read, written ▸ same⟩

end Rulebook
