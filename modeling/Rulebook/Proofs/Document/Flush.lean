import Rulebook.Proofs.Document.Settled

/-!
# Lists of users in a finished document

To finish a document is to put the list of the users of a name into the last declaration of the name.
The document reads as before with exactly these lists in it.
-/

namespace Rulebook

namespace Document

/-- Two documents of which the second is the first with lists at the end of elements below a limit.
The lists are made of elements from the limit on, which stay as they are. -/
structure Lists (limit : ElementId) (lists : ElementId → List Markup) (before after : Document) :
    Prop where
  /-- No element is lost. -/
  size_le : before.size ≤ after.size
  /-- Elements of lists are unchanged. -/
  kept : ∀ id element, limit ≤ id → before.get? id = some element → after.get? id = some element
  /-- Every other element has its list at the end. -/
  extended : ∀ id element, id < limit → before.get? id = some element →
    ∃ added, after.get? id = some (element.extend [] added) ∧ after.HoldsAll limit added (lists id)

theorem Lists.refl (limit : ElementId) (document : Document) :
    Lists limit (fun _ => []) document document where
  size_le := Nat.le_refl _
  kept _ _ _ found := found
  extended id element _ found := ⟨[], by rwa [Element.extend_nil], trivial⟩

theorem Lists.trans {limit : ElementId} {lists more : ElementId → List Markup}
    {before middle after : Document} (first : Lists limit lists before middle)
    (second : Lists limit more middle after) :
    Lists limit (fun id => lists id ++ more id) before after where
  size_le := Nat.le_trans first.size_le second.size_le
  kept id element above found := second.kept id element above (first.kept id element above found)
  extended id element below found := by
    obtain ⟨added, halfway, holds⟩ := first.extended id element below found
    obtain ⟨further, still, holds_more⟩ := second.extended id _ below halfway
    refine ⟨added ++ further, ?_, ?_⟩
    · rw [still, Element.extend_extend, List.append_nil]
    · exact (holds.frame (Nat.le_refl _) second.kept).append holds_more

section

variable {before after : Document} {lists : ElementId → List Markup}

section

variable {usersOf : String → List String} {anchorOf? : String → Option ElementId}

mutual

/-- What reads as some markup reads as the markup with the lists that its elements get, if these are the
lists of the names of which the elements are the last declarations. -/
theorem Spans.settled (listed : Lists before.size lists before after)
    (anchors : ∀ name id, anchorOf? name = some id ↔ before.LastDeclares id name)
    (told : ∀ id element, before.get? id = some element →
      lists id = Markup.usersIn (fun name => if anchorOf? name = some id then usersOf name else [])
        element.name element.attributes.toList) :
    ∀ {low : Nat} {content : Content} {markup : Markup} {behind : List String},
      before.Spans low content markup →
        (∀ name, name ∈ behind ↔
          ∃ id : Nat, low + markup.size ≤ id ∧ before.declaresAt? id = some name) →
            after.Holds low content (markup.settled usersOf behind)
  | low, .element _, .element tag attributes contents, behind, spans, behind_iff => by
      obtain ⟨rfl, element, found, rfl, rfl, inner⟩ := spans
      have inside := lt_of_get?_eq_some found
      obtain ⟨added, extended, holds_added⟩ := listed.extended low element inside found
      have above_iff (name : String) : name ∈ behind ↔
          ∃ id : Nat, low + 1 + Markup.sizeAll contents ≤ id ∧ before.declaresAt? id = some name := by
        rw [behind_iff, Markup.size, Nat.add_assoc, Nat.add_comm 1]
      have own : Markup.usersIn (fun name => if anchorOf? name = some low then usersOf name else [])
          element.name element.attributes.toList =
            Markup.usersIn (Markup.usersUnless (Markup.names contents ++ behind) usersOf)
              element.name element.attributes.toList := by
        refine Markup.usersIn_congr fun name declares => ?_
        have here : before.declaresAt? low = some name := (declaresAt?_of_get? found).trans declares
        have last : anchorOf? name = some low ↔ name ∉ Markup.names contents ++ behind := by
          rw [anchors, List.mem_append, inner.mem_names, above_iff]
          constructor
          · rintro ⟨-, last⟩ (⟨id, above, -, again⟩ | ⟨id, above, again⟩)
            · exact Nat.not_lt.mpr (last id again) above
            · exact Nat.not_lt.mpr (last id again) (by omega)
          · intro nowhere
            refine ⟨here, fun other again => Nat.le_of_not_lt fun above => nowhere ?_⟩
            by_cases within : other < low + 1 + Markup.sizeAll contents
            · exact .inl ⟨other, above, within, again⟩
            · exact .inr ⟨other, Nat.le_of_not_lt within, again⟩
        rw [Markup.usersUnless]
        by_cases again : name ∈ Markup.names contents ++ behind
        · rw [if_pos again, if_neg fun anchored => last.mp anchored again]
        · rw [if_neg again, if_pos (last.mpr again)]
      rw [told low element found, own] at holds_added
      refine ⟨Nat.le_refl low, _, extended, rfl, by simp [Element.extend], ?_⟩
      simp only [Element.extend, Array.toList_append]
      exact (SpansAll.settled listed anchors told inner above_iff).append
        (holds_added.frame inside fun _ _ _ same => same)
  | _, .text _, .text _, _, spans, _ => spans
  | _, .cdata _, .cdata _, _, spans, _ => spans

theorem SpansAll.settled (listed : Lists before.size lists before after)
    (anchors : ∀ name id, anchorOf? name = some id ↔ before.LastDeclares id name)
    (told : ∀ id element, before.get? id = some element →
      lists id = Markup.usersIn (fun name => if anchorOf? name = some id then usersOf name else [])
        element.name element.attributes.toList) :
    ∀ {low : Nat} {contents : List Content} {markups : List Markup} {behind : List String},
      before.SpansAll low contents markups →
        (∀ name, name ∈ behind ↔
          ∃ id : Nat, low + Markup.sizeAll markups ≤ id ∧ before.declaresAt? id = some name) →
            after.HoldsAll low contents (Markup.settledAll usersOf behind markups)
  | _, [], [], _, _, _ => trivial
  | low, _ :: _, markup :: later, behind, ⟨head, tail⟩, behind_iff => by
      have rest_iff (name : String) : name ∈ behind ↔ ∃ id : Nat,
          low + markup.size + Markup.sizeAll later ≤ id ∧ before.declaresAt? id = some name := by
        rw [behind_iff, Markup.sizeAll, Nat.add_assoc]
      refine ⟨head.settled listed anchors told fun name => ?_,
        (SpansAll.settled listed anchors told tail rest_iff).frame (Nat.le_add_right _ _)
          fun _ _ _ same => same⟩
      rw [List.mem_append, tail.mem_names, rest_iff]
      constructor
      · rintro (⟨id, above, -, declares⟩ | ⟨id, above, declares⟩)
        · exact ⟨id, above, declares⟩
        · exact ⟨id, by omega, declares⟩
      · rintro ⟨id, above, declares⟩
        by_cases within : id < low + markup.size + Markup.sizeAll later
        · exact .inl ⟨id, above, within, declares⟩
        · exact .inr ⟨id, Nat.le_of_not_lt within, declares⟩

end

end

end
end Document

namespace UsageIndex

theorem markupAll_usersStep {users : List String} (used : users.isEmpty = false) :
    Step.markupAll [usersStep users] = Markup.userList users := by
  have bare : (users.map fun user => Step.element "declaration" [.text user]).filterMap
      Step.attribute? = [] := by
    simp [List.filterMap_map, Function.comp_def, Step.attribute?]
  have written : Step.markupAll (users.map fun user => .element "declaration" [.text user]) =
      users.map fun user => .element "declaration" [] [.text user] := by
    rw [Step.markupAll_eq, List.flatMap_map]
    exact List.flatMap_pure_eq_map _ users
  simp [usersStep, Step.markupAll, Step.markup, bare, written, Markup.userList, used]

/-- If a single one of some values gives anything, this is all that they give. -/
theorem flatMap_eq_of_only {Value Found : Type} {found : Value → List Found} {values : List Value}
    {value : Value} (distinct : values.Nodup) (member : value ∈ values)
    (only : ∀ other ∈ values, other ≠ value → found other = []) :
    values.flatMap found = found value := by
  induction values with
  | nil => simp at member
  | cons first later induction =>
      rw [List.nodup_cons] at distinct
      rw [List.forall_mem_cons] at only
      rw [List.flatMap_cons]
      rcases List.mem_cons.mp member with rfl | inside
      · have rest : later.flatMap found = [] := by
          refine List.flatMap_eq_nil_iff.mpr fun other present => only.2 other present ?_
          rintro rfl
          exact distinct.1 present
        rw [rest, List.append_nil]
      · have apart : first ≠ value := by
          rintro rfl
          exact distinct.1 inside
        rw [only.1 apart, List.nil_append]
        exact induction distinct.2 inside only.2

/-- The list that a record puts into an element. -/
def listAt (id : ElementId) (usage : UsageRecord) : List Markup :=
  if usage.anchor? = some id then Markup.userList usage.users else []

/-- To flush a record puts its list into its declaration. -/
theorem lists_flushRecord {document : Document} {limit : ElementId} {usage : UsageRecord}
    (inside : limit ≤ document.size) (below : ∀ anchor ∈ usage.anchor?, anchor < limit) :
    document.Lists limit (fun id => listAt id usage) (flushRecord document usage) := by
  cases anchored : usage.anchor? with
  | none =>
      have nothing (id : ElementId) : listAt id usage = [] := by simp [listAt, anchored]
      rw [flushRecord, anchored, funext nothing]
      exact .refl limit document
  | some anchor =>
      cases used : usage.users.isEmpty with
      | true =>
          have nothing (id : ElementId) : listAt id usage = [] := by
            simp [listAt, Markup.userList, used]
          simp only [flushRecord, anchored, used, if_true, nothing]
          exact .refl limit document
      | false =>
          have anchor_below := below anchor anchored
          obtain ⟨element, found⟩ := Document.exists_get? (Nat.lt_of_lt_of_le anchor_below inside)
          have placed : ∀ step ∈ [usersStep usage.users], step.Placed element.name := by
            refine List.forall_mem_singleton.mpr (.element (List.forall_mem_map.mpr fun user _ => ?_))
            exact .element (List.forall_mem_singleton.mpr (.text _ user))
          obtain ⟨added, grows, holds⟩ :=
            (Builder.writes_within placed ⟨document, [], {}⟩ found rfl).grown
          rw [← flushRecord_eq anchored used] at grows holds
          rw [markupAll_usersStep used] at holds
          -- Only the anchor grows, and what it gains are elements behind all earlier ones.
          refine ⟨grows.size_le, fun id _ above present => ?_, fun id other _ present => ?_⟩
          · exact grows.get?_eq_of_le (Nat.lt_of_lt_of_le anchor_below above) present
          · by_cases here : id = anchor
            · subst here
              refine ⟨added, grows.extended other present, ?_⟩
              rw [listAt, if_pos anchored]
              exact holds.frame inside fun _ _ _ same => same
            · refine ⟨[], ?_, ?_⟩
              · rw [Element.extend_nil]
                exact (grows.unchanged id (Document.lt_of_get?_eq_some present) here).trans present
              · rw [listAt, anchored, if_neg fun same => here (Option.some.inj same).symm]
                trivial

/-- To flush an index puts the lists of all its records into their declarations. -/
theorem lists_flush {index : UsageIndex} {document : Document} {limit : ElementId}
    (inside : limit ≤ document.size)
    (below : ∀ entry ∈ index.entries, ∀ anchor ∈ entry.2.anchor?, anchor < limit) :
    document.Lists limit (fun id => index.entries.flatMap fun entry => listAt id entry.2)
      (index.flush document) := by
  obtain ⟨entries⟩ := index
  simp only [flush] at below ⊢
  induction entries generalizing document with
  | nil => exact .refl limit document
  | cons entry entries induction =>
      rw [List.forall_mem_cons] at below
      have first := lists_flushRecord inside below.1
      exact first.trans (induction (Nat.le_trans inside first.size_le) below.2)

variable {index : UsageIndex} {document : Document} {names : List String}

theorem get?_of_mem (nodup : (index.entries.map Prod.fst).Nodup) {entry : String × UsageRecord}
    (member : entry ∈ index.entries) : index.get? entry.1 = some entry.2 := by
  obtain ⟨before, after, split⟩ := List.append_of_mem member
  rw [split, List.map_append, List.map_cons, List.nodup_append] at nodup
  refine List.lookup_eq_some_iff.mpr ⟨before, after, split, fun other earlier => ?_⟩
  have distinct := nodup.2.2 other.1 (List.mem_map_of_mem earlier) entry.1 List.mem_cons_self
  exact bne_iff_ne.mpr (Ne.symm distinct)

/-- A record puts its list into a place if and only if the place is the anchor of its name. -/
theorem anchorOf?_of_mem (nodup : (index.entries.map Prod.fst).Nodup)
    {entry : String × UsageRecord} (member : entry ∈ index.entries) :
    index.anchorOf? entry.1 = entry.2.anchor? := by
  rw [anchorOf?, get?_of_mem nodup member, Option.bind_some]

/-- The records put into an element the list of the name of which it is the only anchor. -/
theorem flatMap_listAt_of_anchor (nodup : (index.entries.map Prod.fst).Nodup) {name : String}
    {id : ElementId} (only : ∀ other, index.anchorOf? other = some id → other = name)
    (anchored : index.anchorOf? name = some id) :
    (index.entries.flatMap fun entry => listAt id entry.2) =
      Markup.userList (index.usersOf name) := by
  obtain ⟨usage, record, place⟩ := Option.bind_eq_some_iff.mp anchored
  have known : (name, usage) ∈ index.entries := by
    obtain ⟨before, after, split, -⟩ := List.lookup_eq_some_iff.mp record
    rw [split]
    exact List.mem_append_right before List.mem_cons_self
  have others : ∀ entry ∈ index.entries, entry ≠ (name, usage) → listAt id entry.2 = [] := by
    intro entry member other
    refine if_neg fun also => other ?_
    have same := only entry.1 ((anchorOf?_of_mem nodup member).trans also)
    -- A second entry with the name of the first would have to hold the same record.
    have repeated := get?_of_mem nodup member
    rw [same, record] at repeated
    exact Prod.ext same (Option.some.inj repeated).symm
  rw [flatMap_eq_of_only nodup.of_map known others, listAt, if_pos place, usersOf, record,
    Option.map_some, Option.getD_some]

/-- The records put nothing into an element that is no anchor. -/
theorem flatMap_listAt_eq_nil (nodup : (index.entries.map Prod.fst).Nodup) {id : ElementId}
    (nowhere : ∀ name, index.anchorOf? name ≠ some id) :
    (index.entries.flatMap fun entry => listAt id entry.2) = [] := by
  refine List.flatMap_eq_nil_iff.mpr fun entry member => if_neg fun anchored => ?_
  exact nowhere entry.1 ((anchorOf?_of_mem nodup member).trans anchored)

/-- The records put into an element the list of the users of the name of which it is the last
declaration. -/
theorem Tracks.flatMap_listAt (tracks : index.Tracks document) {id : ElementId} {element : Element}
    (found : document.get? id = some element) :
    (index.entries.flatMap fun entry => listAt id entry.2) =
      Markup.usersIn (fun name => if index.anchorOf? name = some id then index.usersOf name else [])
        element.name element.attributes.toList := by
  rw [Markup.usersIn, ← Document.declaresAt?_of_get? found]
  by_cases anchors : ∃ name, index.anchorOf? name = some id
  · obtain ⟨name, anchored⟩ := anchors
    have declares := ((tracks.anchorOf?_eq_some name id).mp anchored).1
    have only : ∀ other, index.anchorOf? other = some id → other = name := by
      intro other also
      have same := ((tracks.anchorOf?_eq_some other id).mp also).1
      exact Option.some.inj (same.symm.trans declares)
    rw [flatMap_listAt_of_anchor tracks.nodup only anchored, declares, Option.map_some,
      Option.getD_some, if_pos anchored]
  · rw [flatMap_listAt_eq_nil tracks.nodup fun name anchored => anchors ⟨name, anchored⟩]
    cases document.declaresAt? id with
    | none => rfl
    | some name =>
        rw [Option.map_some, Option.getD_some, if_neg fun anchored => anchors ⟨name, anchored⟩]
        rfl

end UsageIndex

/-- Tidy steps read in a new document as the markup that they write, with the lists of the users that
they note in the last declarations. -/
theorem Builder.exists_settled_tree {tag : String} {steps : List Step}
    (other : tag ≠ "declaration") (tidy : ∀ step ∈ steps, step.Tidy tag) :
    ∃ tree, (Builder.performAll steps (Builder.new tag)).finish.treeAt? Document.root = some tree ∧
      tree.markup = (Markup.element tag (steps.filterMap Step.attribute?)
        (Step.markupAll steps)).settled (fun name => (Step.usersOfAll name steps).eraseDups) [] := by
  have tracks := tracks_performAll_new other tidy
  obtain ⟨spans, size⟩ := spans_performAll_new fun step member => (tidy step member).placed
  have below : ∀ entry ∈ (performAll steps (Builder.new tag)).usages.entries,
      ∀ anchor ∈ entry.2.anchor?, anchor < (performAll steps (Builder.new tag)).document.size := by
    intro entry member anchor anchored
    have place := (UsageIndex.anchorOf?_of_mem tracks.nodup member).trans anchored
    exact Document.lt_size_of_declaresAt? ((tracks.anchorOf?_eq_some entry.1 anchor).mp place).1
  have listed := UsageIndex.lists_flush (Nat.le_refl _) below
  have behind : ∀ name, name ∈ ([] : List String) ↔ ∃ id : Nat, Document.root +
      (Markup.element tag (steps.filterMap Step.attribute?) (Step.markupAll steps)).size ≤ id ∧
        (performAll steps (Builder.new tag)).document.declaresAt? id = some name := by
    refine fun name => iff_of_false List.not_mem_nil ?_
    rintro ⟨id, above, declares⟩
    have inside := Document.lt_size_of_declaresAt? declares
    rw [size] at inside
    rw [Markup.size, Document.root, Nat.zero_add] at above
    exact Nat.not_lt.mpr above inside
  have holds := spans.settled listed tracks.anchorOf?_eq_some
    (fun id element found => tracks.flatMap_listAt found) behind
  obtain ⟨tree, read, written⟩ := holds.treeAt?
  refine ⟨tree, read, ?_⟩
  rw [written, funext fun name => usersOf_performAll_new tag name steps]

end Rulebook
