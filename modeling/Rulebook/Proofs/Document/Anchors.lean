import Rulebook.Proofs.Document.Index
import Rulebook.Proofs.Document.Named

/-!
# Anchors and declarations

If every declaration is written in one go, the index of usages finds the last declaration of every
name, and the last declaration of a name in the document is the anchor of the name.
-/

namespace Rulebook

namespace Document

/-- The name that the element at a place declares, if it declares one. -/
def declaresAt? (document : Document) (id : ElementId) : Option String :=
  (document.get? id).bind fun element =>
    Markup.declares? element.name element.attributes.toList

variable {document : Document} {id : ElementId} {element : Element}

theorem declaresAt?_of_get? (found : document.get? id = some element) :
    document.declaresAt? id = Markup.declares? element.name element.attributes.toList := by
  rw [declaresAt?, found, Option.bind_some]

theorem lt_size_of_declaresAt? {name : String} (declares : document.declaresAt? id = some name) :
    id < document.size := by
  obtain ⟨_, found, -⟩ := Option.bind_eq_some_iff.mp declares
  exact lt_of_get?_eq_some found

theorem declaresAt?_size (document : Document) : document.declaresAt? document.size = none := by
  simp [declaresAt?, get?, size]

theorem declaresAt?_appendContent (document : Document) (parent : ElementId) (content : Content) :
    (document.appendContent parent content).declaresAt? id = document.declaresAt? id := by
  simp only [declaresAt?, get?, appendContent, Array.getElem?_modify]
  by_cases here : parent = id
  · rw [if_pos here]
    cases document.elements[id]? <;> rfl
  · rw [if_neg here]

/-- A new element declares nothing. -/
theorem declaresAt?_appendElement (document : Document) (parent : ElementId) (name : String) :
    (document.appendElement parent name).2.declaresAt? id = document.declaresAt? id := by
  rw [appendElement, declaresAt?_appendContent, declaresAt?, get?, Array.getElem?_push]
  by_cases last : id = document.elements.size
  · have fresh : Markup.declares? name [] = none := by
      unfold Markup.declares?
      split <;> rfl
    rw [if_pos last, last, ← size, declaresAt?_size]
    exact fresh
  · rw [if_neg last]
    rfl

/-- An attribute of an element that is no declaration declares nothing. -/
theorem declaresAt?_setAttribute {place : ElementId} (found : document.get? place = some element)
    (other : element.name ≠ "declaration") (key value : String) :
    (document.setAttribute place key value).declaresAt? id = document.declaresAt? id := by
  have grows := grows_setAttribute document place key value
  by_cases here : id = place
  · subst here
    rw [declaresAt?_of_get? (grows.extended element found), declaresAt?_of_get? found]
    simp [Markup.declares?, Element.extend, other]
  · simp only [declaresAt?, get?, setAttribute, Array.getElem?_modify]
    rw [if_neg (Ne.symm here)]

/-- A declaration that is written in one go declares its name, and nothing else changes. -/
theorem declaresAt?_declaration {parent : ElementId} (inside : parent < document.size)
    (name : String) :
    ((document.appendElement parent "declaration").2.setAttribute document.size "name"
        name).declaresAt? id =
      if id = document.size then some name else document.declaresAt? id := by
  have fresh := get?_appendElement document inside "declaration"
  have grows := grows_setAttribute (document.appendElement parent "declaration").2 document.size
    "name" name
  by_cases here : id = document.size
  · subst here
    rw [if_pos rfl, declaresAt?_of_get? (grows.extended _ fresh)]
    simp [Markup.declares?, Element.extend]
  · rw [if_neg here, ← declaresAt?_appendElement document parent "declaration"]
    simp only [declaresAt?, get?, setAttribute, Array.getElem?_modify]
    rw [if_neg (Ne.symm here)]

/-- Is the element at a place the last that declares a name? -/
def LastDeclares (document : Document) (id : ElementId) (name : String) : Prop :=
  document.declaresAt? id = some name ∧
    ∀ other, document.declaresAt? other = some name → other ≤ id

end Document

namespace Step

/-- A step in an element of a name that declares names only where it writes a whole declaration. -/
inductive Tidy : String → Step → Prop where
  /-- A declaration. -/
  | declaration (tag name : String) :
      Tidy tag (.element "declaration" [.setAttribute "name" name, .declare name])
  /-- Another element with steps inside it. -/
  | element {tag name : String} {body : List Step} (other : name ≠ "declaration")
      (each : ∀ step ∈ body, Tidy name step) : Tidy tag (.element name body)
  /-- An attribute of an element that is no declaration. -/
  | setAttribute {tag : String} (other : tag ≠ "declaration") (key value : String) :
      Tidy tag (.setAttribute key value)
  /-- Escaped text. -/
  | text (tag value : String) : Tidy tag (.text value)
  /-- Text that is written as it is. -/
  | cdata (tag value : String) : Tidy tag (.cdata value)
  /-- A reference. -/
  | reference (tag target user : String) : Tidy tag (.reference target user)

/-- A tidy step stays at the cursor. -/
theorem Tidy.placed {tag : String} {step : Step} (tidy : step.Tidy tag) : step.Placed tag := by
  induction tidy with
  | declaration tag name =>
      refine .element (List.forall_mem_cons.mpr ⟨.setAttribute _ "name" name, ?_⟩)
      exact List.forall_mem_singleton.mpr (.declare name)
  | element _ _ induction => exact .element induction
  | setAttribute _ key value => exact .setAttribute _ key value
  | text tag value => exact .text tag value
  | cdata tag value => exact .cdata tag value
  | reference tag target user => exact .reference tag target user

end Step

/-- Does an index hold the place of the last declaration of every name in a document? -/
structure UsageIndex.Tracks (index : UsageIndex) (document : Document) : Prop where
  /-- Every name has one record. -/
  nodup : (index.entries.map Prod.fst).Nodup
  /-- The anchor of a name is its last declaration. -/
  anchorOf?_eq_some : ∀ name id,
    index.anchorOf? name = some id ↔ document.LastDeclares id name

namespace UsageIndex.Tracks

variable {index : UsageIndex} {document later : Document}

/-- Whatever declares nothing leaves the anchors where they are. -/
theorem of_declaresAt?_eq (tracks : index.Tracks document)
    (same : ∀ id, later.declaresAt? id = document.declaresAt? id) : index.Tracks later where
  nodup := tracks.nodup
  anchorOf?_eq_some name id := by
    simp only [tracks.anchorOf?_eq_some, Document.LastDeclares, same]

theorem reference (tracks : index.Tracks document) (target user : String) :
    (index.reference target user).Tracks document where
  nodup := nodup_update tracks.nodup
  anchorOf?_eq_some name id := by rw [anchorOf?_reference, tracks.anchorOf?_eq_some]

/-- A name that is declared is anchored at its new declaration. -/
theorem declare (tracks : index.Tracks document) {name : String}
    (declares : ∀ id, later.declaresAt? id =
      if id = document.size then some name else document.declaresAt? id) :
    (index.declare name document.size).Tracks later where
  nodup := nodup_update tracks.nodup
  anchorOf?_eq_some other id := by
    have here : later.declaresAt? document.size = some name := by rw [declares, if_pos rfl]
    have elsewhere : ∀ place, place ≠ document.size →
        later.declaresAt? place = document.declaresAt? place :=
      fun place apart => by rw [declares, if_neg apart]
    rw [anchorOf?_declare]
    by_cases same : other = name
    · subst same
      rw [if_pos rfl, Option.some.injEq]
      constructor
      · rintro rfl
        refine ⟨here, fun place declared => ?_⟩
        by_cases last : place = document.size
        · exact Nat.le_of_eq last
        · exact Nat.le_of_lt (Document.lt_size_of_declaresAt? (elsewhere place last ▸ declared))
      · rintro ⟨declared, last⟩
        refine Nat.le_antisymm (last _ here) (Nat.le_of_not_lt fun behind => ?_)
        have before := elsewhere id (Nat.ne_of_gt behind) ▸ declared
        exact Nat.lt_asymm behind (Document.lt_size_of_declaresAt? before)
    · -- The new declaration is of another name, so it comes into question nowhere.
      have only : ∀ place, later.declaresAt? place = some other ↔
          document.declaresAt? place = some other := by
        intro place
        by_cases last : place = document.size
        · subst last
          rw [here, document.declaresAt?_size]
          simp [Ne.symm same]
        · rw [elsewhere place last]
      rw [if_neg same, tracks.anchorOf?_eq_some]
      simp only [Document.LastDeclares, only]

end UsageIndex.Tracks

namespace Builder

/-- Does a step keep the index of the declarations, wherever an element of a name is at the
cursor? -/
def StepTracks (tag : String) (step : Step) : Prop :=
  ∀ (builder : Builder) (element : Element),
    builder.document.get? builder.current = some element → element.name = tag →
      builder.usages.Tracks builder.document →
        (perform step builder).usages.Tracks (perform step builder).document

theorem tracks_performAll {tag : String} {steps : List Step}
    (tidy : ∀ step ∈ steps, step.Tidy tag) (each : ∀ step ∈ steps, StepTracks tag step)
    (builder : Builder) {element : Element}
    (found : builder.document.get? builder.current = some element) (named : element.name = tag)
    (tracks : builder.usages.Tracks builder.document) :
    (performAll steps builder).usages.Tracks (performAll steps builder).document := by
  induction steps generalizing builder element with
  | nil => exact tracks
  | cons step steps induction =>
      rw [List.forall_mem_cons] at tidy each
      have writes := stepWrites_of_placed tidy.1.placed builder element found named
      obtain ⟨later, still, same⟩ := writes.exists_name found
      have cursor := current_eq_of_cursor_eq writes.cursor_eq
      -- The first step leaves an element of the same name at the cursor for the steps after it.
      exact induction tidy.2 each.2 (perform step builder) (cursor.symm ▸ still)
        (same.trans named) (each.1 builder element found named tracks)

theorem stepTracks_of_tidy {tag : String} {step : Step} (tidy : step.Tidy tag) :
    StepTracks tag step := by
  induction tidy with
  | declaration tag name =>
      intro builder element found named tracks
      exact tracks.declare fun id =>
        Document.declaresAt?_declaration (Document.lt_of_get?_eq_some found) name
  | @element tag name body other each induction =>
      intro builder element found named tracks
      have inside := Document.lt_of_get?_eq_some found
      let entered := (builder.append name).2.enter builder.document.size
      have fresh : entered.document.get? entered.current = some { name } :=
        Document.get?_appendElement builder.document inside name
      -- The new element has no attributes yet, so it declares nothing.
      have before : entered.usages.Tracks entered.document :=
        tracks.of_declaresAt?_eq fun id => builder.document.declaresAt?_appendElement _ name
      exact tracks_performAll each induction entered fresh rfl before
  | setAttribute other key value =>
      intro builder element found named tracks
      exact tracks.of_declaresAt?_eq fun id =>
        Document.declaresAt?_setAttribute found (named ▸ other) key value
  | text tag value =>
      intro builder element found named tracks
      exact tracks.of_declaresAt?_eq fun id =>
        builder.document.declaresAt?_appendContent builder.current (.text value)
  | cdata tag value =>
      intro builder element found named tracks
      exact tracks.of_declaresAt?_eq fun id =>
        builder.document.declaresAt?_appendContent builder.current (.cdata value)
  | reference tag target user =>
      intro builder element found named tracks
      exact tracks.reference target user

/-- Tidy steps in a new document leave an index of the last declarations of all names. -/
theorem tracks_performAll_new {tag : String} {steps : List Step} (other : tag ≠ "declaration")
    (tidy : ∀ step ∈ steps, step.Tidy tag) :
    (performAll steps (Builder.new tag)).usages.Tracks
      (performAll steps (Builder.new tag)).document := by
  have start : (Builder.new tag).document.get? Document.root = some { name := tag } := rfl
  have empty : (Builder.new tag).usages.Tracks (Builder.new tag).document := by
    refine ⟨List.nodup_nil, fun name id => ⟨nofun, fun last => ?_⟩⟩
    have nothing : (Builder.new tag).document.declaresAt? id = none := by
      cases id with
      | zero => exact (Document.declaresAt?_of_get? start).trans (if_neg other)
      | succ id => rfl
    exact absurd (nothing.symm.trans last.1) nofun
  exact tracks_performAll tidy (fun step member => stepTracks_of_tidy (tidy step member))
    (Builder.new tag) start rfl empty

end Builder
end Rulebook
