import Rulebook.Proofs.Document.Flush
import Rulebook.Proofs.Document.Stretches

/-!
# Whatever is built is a tree

Steps can enter any element that is there when they are done, and inside it any other.  An element is
numbered by how many were made before it, so that steps can name the elements that they make.  The
elements around the cursor and the anchors of the index are always elements of the document, which is a
tree at every moment and also with the lists of users.
-/

namespace Rulebook
namespace Builder

mutual

/-- Is every element that the step enters there when it is entered? -/
def Finds : Step → Builder → Prop
  | .element name body, builder =>
      FindsAll body ((builder.append name).2.enter (builder.append name).1)
  | .within id body, builder => id < builder.document.size ∧ FindsAll body (builder.enter id)
  | _, _ => True

/-- Is every element that the steps enter there when it is entered? -/
def FindsAll : List Step → Builder → Prop
  | [], _ => True
  | step :: later, builder => Finds step builder ∧ FindsAll later (perform step builder)

end

/-- Does doing the steps come to do a step, at the top or inside others, with a builder? -/
inductive Reaches : List Step → Builder → Step → Builder → Prop where
  /-- The first step comes at once. -/
  | now {step : Step} {later : List Step} {builder : Builder} :
      Reaches (step :: later) builder step builder
  /-- A later step comes after the first. -/
  | later {first step : Step} {later : List Step} {builder before : Builder}
      (reaches : Reaches later (perform first builder) step before) :
      Reaches (first :: later) builder step before
  /-- A step comes inside a new element. -/
  | element {name : String} {body later : List Step} {step : Step} {builder before : Builder}
      (reaches : Reaches body ((builder.append name).2.enter (builder.append name).1) step before) :
      Reaches (.element name body :: later) builder step before
  /-- A step comes inside an element that is there already. -/
  | within {id : ElementId} {body later : List Step} {step : Step} {builder before : Builder}
      (reaches : Reaches body (builder.enter id) step before) :
      Reaches (.within id body :: later) builder step before

/-- Has the document been built, and do the cursor and the index only point at elements of it? -/
structure Sound (builder : Builder) : Prop where
  /-- The document has been built. -/
  built : builder.document.Built
  /-- The cursor is somewhere. -/
  cursor_ne_nil : builder.cursor ≠ []
  /-- The elements around the cursor are there. -/
  cursor_inside : ∀ id ∈ builder.cursor, id < builder.document.size
  /-- Every name has one record. -/
  names_nodup : (builder.usages.entries.map Prod.fst).Nodup
  /-- The elements that declare names are there. -/
  anchors_inside : ∀ name anchor, builder.usages.anchorOf? name = some anchor →
    anchor < builder.document.size

theorem sound_new (tag : String) : (Builder.new tag).Sound where
  built := .new tag
  cursor_ne_nil := List.cons_ne_nil _ _
  cursor_inside := List.forall_mem_singleton.mpr Nat.zero_lt_one
  names_nodup := .nil
  anchors_inside := nofun

namespace Sound

variable {builder : Builder} (sound : builder.Sound)
include sound

theorem current_lt : builder.current < builder.document.size := by
  obtain ⟨id, outer, cursor⟩ := List.exists_cons_of_ne_nil sound.cursor_ne_nil
  have inside := sound.cursor_inside id (cursor ▸ List.mem_cons_self)
  rw [current, cursor]
  exact inside

theorem enter {id : ElementId} (inside : id < builder.document.size) : (builder.enter id).Sound where
  built := sound.built
  cursor_ne_nil := List.cons_ne_nil _ _
  cursor_inside := List.forall_mem_cons.mpr ⟨inside, sound.cursor_inside⟩
  names_nodup := sound.names_nodup
  anchors_inside := sound.anchors_inside

theorem leave {id : ElementId} {outer : List ElementId} (inside : builder.cursor = id :: outer)
    (somewhere : outer ≠ []) : builder.leave.Sound where
  built := sound.built
  cursor_ne_nil := by
    rw [Builder.leave, inside]
    exact somewhere
  cursor_inside other member := sound.cursor_inside other (List.mem_of_mem_tail member)
  names_nodup := sound.names_nodup
  anchors_inside := sound.anchors_inside

/-- A change at the cursor that builds on the document keeps a builder sound. -/
theorem edit (change : Document → ElementId → Document)
    (builds : builder.document.IsBuiltOn (change builder.document builder.current)) :
    (builder.edit change).Sound where
  built := builds.built
  cursor_ne_nil := sound.cursor_ne_nil
  cursor_inside id member := Nat.lt_of_lt_of_le (sound.cursor_inside id member) builds.size_le
  names_nodup := sound.names_nodup
  anchors_inside name anchor anchored :=
    Nat.lt_of_lt_of_le (sound.anchors_inside name anchor anchored) builds.size_le

theorem append (name : String) : (builder.append name).2.Sound :=
  sound.edit (fun document parent => (document.appendElement parent name).2)
    (sound.built.isBuiltOn_appendElement sound.current_lt name)

/-- A new element can be entered. -/
theorem enter_append (name : String) :
    ((builder.append name).2.enter (builder.append name).1).Sound :=
  (sound.append name).enter (Document.fst_appendElement_lt builder.document builder.current name)

/-- A change of the index keeps a builder sound if the elements that declare names stay inside. -/
theorem note {change : UsageIndex → UsageIndex}
    (nodup : ((change builder.usages).entries.map Prod.fst).Nodup)
    (inside : ∀ name anchor, (change builder.usages).anchorOf? name = some anchor →
      anchor < builder.document.size) : (builder.note change).Sound where
  built := sound.built
  cursor_ne_nil := sound.cursor_ne_nil
  cursor_inside := sound.cursor_inside
  names_nodup := nodup
  anchors_inside := inside

theorem reference (target user : String) :
    (builder.note fun usages => usages.reference target user).Sound := by
  refine sound.note (UsageIndex.nodup_update sound.names_nodup) fun name anchor anchored => ?_
  rw [UsageIndex.anchorOf?_reference] at anchored
  exact sound.anchors_inside name anchor anchored

/-- The element at the cursor can declare a name. -/
theorem declare (name : String) :
    (builder.note fun usages => usages.declare name builder.current).Sound := by
  refine sound.note (UsageIndex.nodup_update sound.names_nodup) fun other anchor anchored => ?_
  rw [UsageIndex.anchorOf?_declare] at anchored
  split at anchored
  · exact Option.some.inj anchored ▸ sound.current_lt
  · exact sound.anchors_inside other anchor anchored

end Sound

mutual

/-- A step that finds the elements that it enters keeps a builder sound. -/
theorem sound_perform : ∀ (step : Step) {builder : Builder}, builder.Sound → Finds step builder →
    (perform step builder).Sound
  | .element name body, _, sound, finds =>
      (sound_performAll body (sound.enter_append name) finds).leave (cursor_performAll body _)
        sound.cursor_ne_nil
  | .within _ body, _, sound, finds =>
      (sound_performAll body (sound.enter finds.1) finds.2).leave (cursor_performAll body _)
        sound.cursor_ne_nil
  | .setAttribute key value, _, sound, _ =>
      sound.edit (fun document id => document.setAttribute id key value)
        ⟨sound.built.setAttribute sound.current_lt key value,
          Nat.le_of_eq (Document.size_setAttribute ..).symm⟩
  | .text value, _, sound, _ =>
      sound.edit (fun document id => document.appendText id value)
        (sound.built.isBuiltOn_appendText sound.current_lt value)
  | .cdata value, _, sound, _ =>
      sound.edit (fun document id => document.appendCData id value)
        ⟨sound.built.appendCData sound.current_lt value,
          Nat.le_of_eq (Document.size_appendContent ..).symm⟩
  | .reference target user, _, sound, _ => sound.reference target user
  | .declare name, _, sound, _ => sound.declare name

/-- Steps that find the elements that they enter keep a builder sound. -/
theorem sound_performAll : ∀ (steps : List Step) {builder : Builder}, builder.Sound →
    FindsAll steps builder → (performAll steps builder).Sound
  | [], _, sound, _ => sound
  | step :: later, _, sound, finds =>
      sound_performAll later (sound_perform step sound finds.1) finds.2

end

/-- Every step is done with a sound builder, and finds the elements that it enters. -/
theorem Reaches.sound {steps : List Step} {builder before : Builder} {step : Step}
    (reaches : Reaches steps builder step before) (sound : builder.Sound)
    (finds : FindsAll steps builder) : before.Sound ∧ Finds step before := by
  induction reaches with
  | now => exact ⟨sound, finds.1⟩
  | later _ induction => exact induction (sound_perform _ sound finds.1) finds.2
  | element _ induction => exact induction (sound.enter_append _) finds.1
  | within _ induction => exact induction (sound.enter finds.1.1) finds.1.2

/-- With the lists of users, the document of a sound builder has been built. -/
theorem Sound.built_finish {builder : Builder} (sound : builder.Sound) : builder.finish.Built := by
  refine UsageIndex.built_foldl_flushRecord sound.built fun entry member anchor anchored => ?_
  have place := UsageIndex.anchorOf?_of_mem sound.names_nodup member
  exact sound.anchors_inside entry.1 anchor (place.trans anchored)

/-- Steps that only enter elements that are there keep the document a tree and bring the cursor back,
each of them and at any depth.  The finished document is a tree, and walks over it pass every element
once. -/
theorem finish_isTraversed {tag : String} {steps : List Step}
    (finds : FindsAll steps (Builder.new tag)) :
    (∀ step before, Reaches steps (Builder.new tag) step before →
      (before.document.IsTree ∧ (perform step before).document.IsTree) ∧
        (before.cursor ≠ [] ∧ ∀ id ∈ before.cursor, id < before.document.size) ∧
          (perform step before).cursor = before.cursor) ∧
      (performAll steps (Builder.new tag)).finish.IsTree ∧
        (performAll steps (Builder.new tag)).finish.IsTraversed := by
  have finished := (sound_performAll steps (sound_new tag) finds).built_finish.isTree
  refine ⟨fun step before reaches => ?_, finished, finished.isTraversed⟩
  obtain ⟨sound, entered⟩ := reaches.sound (sound_new tag) finds
  have done := sound_perform step sound entered
  exact ⟨⟨sound.built.isTree, done.built.isTree⟩, ⟨sound.cursor_ne_nil, sound.cursor_inside⟩,
    cursor_perform step before⟩

/-- Steps that go back into an earlier element, and from inside it into the root. -/
def reopening : List Step :=
  [.element "item" [.setAttribute "id" "1", .declare "sum", .symbol "+", .reference "term" "sum"],
    .reference "sum" "term",
    .within 1 [.element "doc" [.text "of terms", .within 0 [.element "item" [.declare "term"]]]],
    .lineEnd]

theorem reopening_isTraversed :
    FindsAll reopening (Builder.new "tokens") ∧
      (∃ before, Reaches reopening (Builder.new "tokens") (.declare "term") before ∧
        before.cursor = [4, 0, 3, 1, 0] ∧
          (perform (.declare "term") before).cursor = before.cursor) ∧
        (performAll reopening (Builder.new "tokens")).finish.IsTree ∧
          (performAll reopening (Builder.new "tokens")).finish.IsTraversed ∧
            (performAll reopening (Builder.new "tokens")).finish.opened.map Tree.Head.id =
              [0, 1, 2, 3, 6, 7, 4, 8, 9, 5] := by
  have finds : FindsAll reopening (Builder.new "tokens") := by
    simp only [reopening, FindsAll, Finds, Step.symbol, Step.lineEnd, Step.empty, true_and, and_true]
    exact ⟨by decide, by decide⟩
  have deep : ∃ before, Reaches reopening (Builder.new "tokens") (.declare "term") before ∧
      before.cursor = [4, 0, 3, 1, 0] :=
    ⟨_, .later (.later (.within (.element (.later (.within (.element .now)))))), by decide⟩
  obtain ⟨before, reaches, cursor⟩ := deep
  obtain ⟨each, tree, traversed⟩ := finish_isTraversed finds
  obtain ⟨-, -, back⟩ := each _ before reaches
  exact ⟨finds, ⟨before, reaches, cursor, back⟩, tree, traversed, by decide⟩

end Builder
end Rulebook
