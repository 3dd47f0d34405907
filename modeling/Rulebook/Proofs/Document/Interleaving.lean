import Rulebook.Proofs.Document.Lists

/-!
# Mentions in another order

The index of usages takes references and declarations in any order.  The list of the users of a name
depends on the references to it, and its place on the declarations of it, so that a finished document
reads the same however the mentions of different names, or the two kinds of them, are interleaved.
-/

namespace Rulebook

/-! ### Mentions of names -/

/-- One mention of a name in the index of usages. -/
inductive Mention where
  /-- The rule `user` refers to `target`. -/
  | reference (target user : String)
  /-- An element declares a name. -/
  | declare (name : String) (anchor : ElementId)
  deriving DecidableEq

namespace Mention

/-- The user, if it is a reference to a name. -/
def user? (name : String) : Mention → Option String
  | reference target user => if target = name then some user else none
  | declare .. => none

/-- The element, if it is a declaration of a name. -/
def anchor? (name : String) : Mention → Option ElementId
  | reference .. => none
  | declare known anchor => if known = name then some anchor else none

/-- The users that refer to a name, one for each reference. -/
def users (name : String) (mentions : List Mention) : List String :=
  mentions.filterMap (user? name)

/-- The elements that declare a name, one for each declaration. -/
def anchors (name : String) (mentions : List Mention) : List ElementId :=
  mentions.filterMap (anchor? name)

/-- The index after one more mention. -/
def note (index : UsageIndex) : Mention → UsageIndex
  | reference target user => index.reference target user
  | declare name anchor => index.declare name anchor

/-- The index after some mentions. -/
def index (mentions : List Mention) : UsageIndex :=
  mentions.foldl note {}

theorem usersOf_foldl_note (name : String) (mentions : List Mention) (index : UsageIndex) :
    (mentions.foldl note index).usersOf name =
      (users name mentions).foldl addDistinct (index.usersOf name) := by
  induction mentions generalizing index with
  | nil => rfl
  | cons mention later induction =>
      rw [List.foldl_cons, induction, users, users, List.filterMap_cons]
      cases mention with
      | reference target user =>
          rw [note, UsageIndex.usersOf_reference, user?]
          by_cases same : target = name
          · rw [if_pos same, if_pos same.symm, List.foldl_cons]
          · rw [if_neg same, if_neg (Ne.symm same)]
      | declare known anchor => rw [note, UsageIndex.usersOf_declare, user?]

/-- The users of a name stand by their first references to it. -/
theorem usersOf_index (name : String) (mentions : List Mention) :
    (index mentions).usersOf name = (users name mentions).eraseDups := by
  rw [index, usersOf_foldl_note]
  exact foldl_addDistinct_nil _

theorem anchorOf?_foldl_note (name : String) (mentions : List Mention) (index : UsageIndex) :
    (mentions.foldl note index).anchorOf? name =
      (anchors name mentions).getLast?.or (index.anchorOf? name) := by
  induction mentions generalizing index with
  | nil => rfl
  | cons mention later induction =>
      rw [List.foldl_cons, induction, anchors, anchors, List.filterMap_cons]
      cases mention with
      | reference target user => rw [note, UsageIndex.anchorOf?_reference, anchor?]
      | declare known anchor =>
          rw [note, UsageIndex.anchorOf?_declare, anchor?]
          by_cases same : known = name
          · rw [if_pos same, if_pos same.symm, List.getLast?_cons, Option.or_some, Option.some_or]
          · rw [if_neg same, if_neg (Ne.symm same)]

/-- The last declaration of a name counts. -/
theorem anchorOf?_index (name : String) (mentions : List Mention) :
    (index mentions).anchorOf? name = (anchors name mentions).getLast? := by
  rw [index, anchorOf?_foldl_note]
  exact Option.or_none

theorem nodup_foldl_note {mentions : List Mention} {index : UsageIndex}
    (nodup : (index.entries.map Prod.fst).Nodup) :
    ((mentions.foldl note index).entries.map Prod.fst).Nodup := by
  induction mentions generalizing index with
  | nil => exact nodup
  | cons mention later induction =>
      refine induction ?_
      cases mention with
      | reference | declare => exact UsageIndex.nodup_update nodup

theorem nodup_index (mentions : List Mention) :
    ((index mentions).entries.map Prod.fst).Nodup :=
  nodup_foldl_note .nil

/-- Do the mentions of each name come in the same order, references and declarations apart? -/
structure Interleave (first second : List Mention) : Prop where
  /-- The references to a name are the same in the same order. -/
  users_eq : ∀ name, users name first = users name second
  /-- The declarations of a name are the same in the same order. -/
  anchors_eq : ∀ name, anchors name first = anchors name second

/-- Are the lists those of the users of names, each at the last declaration of its name? -/
structure IsListing (mentions : List Mention) (lists : ElementId → List Markup) : Prop where
  /-- The list of a name stands at its last declaration, with every user once. -/
  declared : ∀ name anchor, (anchors name mentions).getLast? = some anchor →
    lists anchor = Markup.userList (users name mentions).eraseDups
  /-- There are no other lists. -/
  elsewhere : ∀ id, (∀ name, (anchors name mentions).getLast? ≠ some id) → lists id = []

theorem IsListing.interleave {first second : List Mention} {lists : ElementId → List Markup}
    (listing : IsListing first lists) (same : Interleave first second) :
    IsListing second lists where
  declared name anchor last := by
    rw [← same.anchors_eq] at last
    rw [listing.declared name anchor last, same.users_eq]
  elsewhere id nowhere := listing.elsewhere id fun name => same.anchors_eq name ▸ nowhere name

theorem IsListing.unique {mentions : List Mention} {lists others : ElementId → List Markup}
    (listing : IsListing mentions lists) (other : IsListing mentions others) : lists = others := by
  funext id
  by_cases declares : ∃ name, (anchors name mentions).getLast? = some id
  · obtain ⟨name, last⟩ := declares
    rw [listing.declared name id last, other.declared name id last]
  · have nowhere := not_exists.mp declares
    rw [listing.elsewhere id nowhere, other.elsewhere id nowhere]

end Mention

/-! ### The finished document -/

namespace Mention

/-- Are the last declarations of names elements of a document, of different names different ones? -/
structure IsAnchored (mentions : List Mention) (document : Document) : Prop where
  /-- A name is declared by an element of the document. -/
  inside : ∀ name anchor, (anchors name mentions).getLast? = some anchor → anchor < document.size
  /-- An element is the last declaration of no more than one name. -/
  apart : ∀ name other anchor, (anchors name mentions).getLast? = some anchor →
    (anchors other mentions).getLast? = some anchor → name = other

variable {mentions : List Mention} {document : Document} {lists : ElementId → List Markup}

theorem IsAnchored.interleave {first second : List Mention} (anchored : IsAnchored first document)
    (same : Interleave first second) : IsAnchored second document where
  inside name anchor last := anchored.inside name anchor (same.anchors_eq name ▸ last)
  apart name other anchor last also :=
    anchored.apart name other anchor (same.anchors_eq name ▸ last) (same.anchors_eq other ▸ also)

/-- The records of the index put the lists of users where they belong. -/
theorem IsAnchored.isListing (anchored : IsAnchored mentions document) :
    IsListing mentions fun id =>
      (index mentions).entries.flatMap fun entry => UsageIndex.listAt id entry.2 where
  declared name anchor last := by
    rw [← usersOf_index]
    refine UsageIndex.flatMap_listAt_of_anchor (nodup_index mentions) (fun other also => ?_) ?_
    · rw [anchorOf?_index] at also
      exact anchored.apart other name anchor also last
    · rw [anchorOf?_index, last]
  elsewhere id nowhere :=
    UsageIndex.flatMap_listAt_eq_nil (nodup_index mentions) fun name => by
      rw [anchorOf?_index]
      exact nowhere name

/-- To flush the index of some mentions is to put their listing into the document. -/
theorem IsListing.lists_flush (listing : IsListing mentions lists)
    (anchored : IsAnchored mentions document) :
    document.Lists document.size lists ((index mentions).flush document) := by
  rw [listing.unique anchored.isListing]
  refine UsageIndex.lists_flush (Nat.le_refl _) fun entry member anchor declared => ?_
  refine anchored.inside entry.1 anchor ?_
  rw [← anchorOf?_index, UsageIndex.anchorOf?_of_mem (nodup_index mentions) member]
  exact declared

/-- Every element of a document then reads as before with the listing. -/
theorem IsListing.exists_treeAt?_flush (listing : IsListing mentions lists)
    (anchored : IsAnchored mentions document) (isTree : document.IsTree) {id : ElementId}
    (inside : id < document.size) :
    ∃ tree flushed, document.treeAt? id = some tree ∧
      ((index mentions).flush document).treeAt? id = some flushed ∧
        flushed.markup = tree.withLists lists := by
  obtain ⟨element, found⟩ := Document.exists_get? inside
  have read := Document.treeAt?_eq found
  have same := (listing.lists_flush anchored).map_treeAt? isTree inside
  rw [read, Option.map_some] at same
  obtain ⟨flushed, shown, reads⟩ := Option.map_eq_some_iff.mp same
  exact ⟨_, flushed, read, shown, reads⟩

/-- Mentions that come interleaved in two ways leave a document that reads the same: as before, with
the list of the users of each name at the end of its last declaration. -/
theorem flush_of_interleave (built : document.Built) {first second : List Mention}
    (same : Interleave first second) (anchored : IsAnchored first document) :
    ((index first).flush document).toXml = ((index second).flush document).toXml ∧
      ∃ lists, IsListing first lists ∧
        ∀ mentions ∈ [first, second], ∀ id, id < document.size →
          ∃ tree flushed, document.treeAt? id = some tree ∧
            ((index mentions).flush document).treeAt? id = some flushed ∧
              flushed.markup = tree.withLists lists := by
  obtain ⟨lists, listing⟩ : ∃ lists, IsListing first lists := ⟨_, anchored.isListing⟩
  have one (id : ElementId) (inside : id < document.size) :=
    listing.exists_treeAt?_flush anchored built.isTree inside
  have other (id : ElementId) (inside : id < document.size) :=
    (listing.interleave same).exists_treeAt?_flush (anchored.interleave same) built.isTree inside
  refine ⟨?_, lists, listing, List.forall_mem_cons.mpr ⟨one, List.forall_mem_singleton.mpr other⟩⟩
  obtain ⟨tree, flushed, read, shown, reads⟩ := one Document.root built.isTree.root_lt
  obtain ⟨again, mate, reread, also_shown, also_reads⟩ := other Document.root built.isTree.root_lt
  cases Option.some.inj (read.symm.trans reread)
  rw [Document.toXml, Document.toXml, shown, also_shown, Option.map_some, Option.map_some,
    Xml.write_eq_of_markup_eq 0 true (reads.trans also_reads.symm)]

/-- A document with three declarations. -/
def declarations : Document :=
  let one := (Document.new "tokens").appendElement Document.root "declaration"
  let two := one.2.appendElement Document.root "declaration"
  (two.2.appendElement Document.root "declaration").2

/-- References to a name before and after its declarations, one of them repeated. -/
def scattered : List Mention :=
  [.reference "term" "sum", .declare "sum" 1, .reference "term" "factor", .declare "term" 2,
    .reference "term" "sum", .declare "term" 3, .reference "sum" "term", .reference "factor" "sum"]

/-- The same mentions with the declarations first. -/
def gathered : List Mention :=
  [.declare "sum" 1, .declare "term" 2, .declare "term" 3, .reference "sum" "term",
    .reference "term" "sum", .reference "factor" "sum", .reference "term" "factor",
    .reference "term" "sum"]

theorem flush_gathered :
    declarations.Built ∧ Interleave scattered gathered ∧ IsAnchored scattered declarations ∧
      (index scattered).flush declarations ≠ (index gathered).flush declarations ∧
        ((index scattered).flush declarations).toXml =
          ((index gathered).flush declarations).toXml ∧
            ∃ lists, IsListing scattered lists ∧ lists 2 = [] ∧
              lists 3 = Markup.userList ["sum", "factor"] := by
  have built : declarations.Built :=
    .appendElement (.appendElement (.appendElement (.new "tokens") (by decide) _) (by decide) _)
      (by decide) _
  have known (name : String) : users name scattered = users name gathered ∧
      anchors name scattered = anchors name gathered ∧ (anchors name scattered).getLast? =
        if name = "sum" then some 1 else if name = "term" then some 3 else none := by
    rcases eq_or_ne name "term" with rfl | term
    · decide
    rcases eq_or_ne name "sum" with rfl | sum
    · decide
    rcases eq_or_ne name "factor" with rfl | factor
    · decide
    simp [users, anchors, scattered, gathered, List.filterMap_cons, user?, anchor?, term, sum,
      term.symm, sum.symm, factor.symm]
  have same : Interleave scattered gathered :=
    ⟨fun name => (known name).1, fun name => (known name).2.1⟩
  have anchored : IsAnchored scattered declarations := by
    constructor
    · intro name anchor last
      rw [(known name).2.2] at last
      split at last
      · cases last
        decide
      · split at last <;> cases last
        decide
    · intro name other anchor last also
      rw [(known _).2.2] at last also
      grind
  obtain ⟨xml, lists, listing, -⟩ := flush_of_interleave built same anchored
  refine ⟨built, same, anchored, by decide, xml, lists, listing, listing.elsewhere 2 ?_, ?_⟩
  · intro name
    rw [(known name).2.2]
    grind
  · exact listing.declared "term" 3 (known "term").2.2

end Mention
end Rulebook
