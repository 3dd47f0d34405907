import Rulebook.Catalogue.Entry
import Rulebook.Proofs.Document.Named
import Rulebook.Proofs.Rendering.Simulation

/-!
# Contents of a description

Whatever a node renders to stays inside the description of its rule, and adds contents to it only,
never an attribute and never documentation. The entry of a rule is therefore an item with a
declaration and a description.
-/

namespace Rulebook

namespace Step

/-- A step that adds to the contents of a description, and to nothing else. -/
structure IsContent (step : Step) : Prop where
  /-- The step stays in the description. -/
  placed : step.Placed "description"
  /-- The step adds no attribute. -/
  bare : step.attribute? = none
  /-- The step adds no documentation. -/
  plain : Markup.namedAll "doc" step.markup = []

theorem isContent_element {name : String} {body : List Step}
    (each : ∀ step ∈ body, step.Placed name) (other : name ≠ "doc")
    (below : Markup.namedAll "doc" (markupAll body) = []) : (element name body).IsContent := by
  refine ⟨.element each, rfl, ?_⟩
  rw [markup, Markup.namedAll, Markup.named, if_neg other, below]
  rfl

theorem isContent_cdata {name : String} (other : name ≠ "doc") (value : String) :
    (element name [cdata value]).IsContent :=
  isContent_element (List.forall_mem_singleton.mpr (.cdata name value)) other rfl

@[simp]
theorem isContent_symbol (sign : String) : (symbol sign).IsContent :=
  isContent_cdata (by decide) sign

@[simp]
theorem isContent_string (value : String) : (string value).IsContent :=
  isContent_cdata (by decide) value

@[simp]
theorem isContent_whitespace (count : Nat) : (whitespace count).IsContent :=
  isContent_string (blanks count)

@[simp]
theorem isContent_lineEnd : lineEnd.IsContent :=
  isContent_element nofun (by decide) rfl

@[simp]
theorem isContent_reference (target user : String) : (reference target user).IsContent :=
  ⟨.reference _ target user, rfl, rfl⟩

end Step

namespace Catalogue
namespace Piece

/-- Does a piece add to the contents of a description only? -/
def IsContent (piece : Piece) : Prop :=
  ∀ step ∈ piece.steps, step.IsContent

variable {piece other : Piece} {pieces : List Piece}

theorem isContent_string (value : String) : (string value).IsContent := by
  simp [string, IsContent]

theorem IsContent.quantified (sign : String) (greedy : Bool) (operand : piece.IsContent) :
    (piece.quantified sign greedy).IsContent := by
  refine List.forall_mem_append.mpr ⟨operand, ?_⟩
  cases greedy <;> simp

theorem isContent_group (grouping : Bool) (count : Nat) {steps : List Step}
    (each : ∀ step ∈ steps, step.IsContent) :
    ∀ step ∈ group grouping count steps, step.IsContent := by
  unfold group
  split
  · simpa [List.forall_mem_append, or_imp, forall_and] using each
  · exact each

theorem isContent_bar (grouping : Bool) : ∀ step ∈ bar grouping, step.IsContent := by
  cases grouping <;> simp [bar]

theorem isContent_barred (grouping : Bool) (each : ∀ piece ∈ pieces, piece.IsContent) :
    ∀ step ∈ barred grouping pieces, step.IsContent := by
  induction pieces with
  | nil => exact nofun
  | cons piece pieces induction =>
      rw [List.forall_mem_cons] at each
      rw [barred, List.forall_mem_append, List.forall_mem_append]
      exact ⟨⟨isContent_bar grouping, each.1⟩, induction each.2⟩

theorem isContent_choice (grouping : Bool) (each : ∀ piece ∈ pieces, piece.IsContent) :
    (choice grouping pieces).IsContent := by
  refine isContent_group grouping _ ?_
  cases pieces with
  | nil => exact nofun
  | cons piece pieces =>
      rw [List.forall_mem_cons] at each
      exact List.forall_mem_append.mpr ⟨each.1, isContent_barred grouping each.2⟩

theorem isContent_filled (lineBreaks? : Option (List Nat)) (budget position buffered : Nat)
    (each : ∀ piece ∈ pieces, piece.IsContent) :
    ∀ step ∈ filled lineBreaks? budget position buffered pieces, step.IsContent := by
  induction pieces generalizing position buffered with
  | nil => exact nofun
  | cons piece pieces induction =>
      rw [List.forall_mem_cons] at each
      rw [filled]
      split
      · have opens : ∀ step ∈ continuation, step.IsContent := by simp [continuation]
        have later := induction (position + 1) 0 each.2
        simp only [List.forall_mem_append, List.forall_mem_cons]
        exact ⟨⟨opens, Step.isContent_whitespace 1, each.1⟩, later⟩
      · have later := induction (position + 1) (buffered + piece.length) each.2
        simp only [List.forall_mem_append, List.forall_mem_cons]
        exact ⟨⟨Step.isContent_whitespace 1, each.1⟩, later⟩

theorem isContent_alternative (lineBreaks? : Option (List Nat)) (budget : Nat) (grouping : Bool)
    (each : ∀ piece ∈ pieces, piece.IsContent) :
    (alternative lineBreaks? budget grouping pieces).IsContent := by
  refine isContent_group grouping _ ?_
  cases pieces with
  | nil => exact nofun
  | cons piece pieces =>
      rw [List.forall_mem_cons] at each
      exact List.forall_mem_append.mpr ⟨each.1, isContent_filled lineBreaks? budget 1 0 each.2⟩

theorem isContent_spaced (each : ∀ piece ∈ pieces, piece.IsContent) :
    ∀ step ∈ spaced pieces, step.IsContent := by
  induction pieces with
  | nil => exact nofun
  | cons piece pieces induction =>
      rw [List.forall_mem_cons] at each
      simp only [spaced, List.forall_mem_append, List.forall_mem_cons]
      exact ⟨⟨Step.isContent_whitespace 1, each.1⟩, induction each.2⟩

theorem isContent_sequence (each : ∀ piece ∈ pieces, piece.IsContent) :
    (sequence pieces).IsContent := by
  cases pieces with
  | nil => exact nofun
  | cons piece pieces =>
      rw [List.forall_mem_cons] at each
      exact List.forall_mem_append.mpr ⟨each.1, isContent_spaced each.2⟩

theorem isContent_identifier (name : String) : (identifier name).IsContent :=
  Step.isContent_element (List.forall_mem_singleton.mpr (.setAttribute _ "name" name)) (by decide) rfl

theorem isContent_token (grammar : Grammar) (settings : Settings) (name : String) :
    (token grammar settings name).IsContent := by
  unfold token
  split
  · exact Step.isContent_cdata (by decide) _
  · split
    · exact isContent_identifier name
    · exact Step.isContent_string name

end Piece

/-- A terminal is shown by contents, and the rule announced last stays the same. -/
theorem isContent_showTerminal (grammar : Grammar) (settings : Settings) (shown : Terminal)
    (state : State) :
    ((showTerminal grammar settings shown).run state).1.IsContent ∧
      ((showTerminal grammar settings shown).run state).2.current? = state.current? := by
  cases shown with
  | literal value => exact ⟨Piece.isContent_string _, rfl⟩
  | token name =>
      simp only [StateT.run, showTerminal]
      split
      split
      · exact ⟨Piece.isContent_string _, rfl⟩
      · refine ⟨List.forall_mem_cons.mpr ⟨Step.isContent_reference name _, ?_⟩, rfl⟩
        exact List.forall_mem_singleton.mpr (Piece.isContent_token grammar settings name)

/-- Two equal states in which a rule has been announced last. -/
def Announced (current? : Option CurrentRule) : State → State → Prop :=
  IsSame fun state => state.current? = current?

/-- Every request is answered by contents, and none announces another rule. -/
theorem matches_renderer_self (grammar : Grammar) (settings : Settings)
    (current? : Option CurrentRule) :
    Renderer.Matches (fun _ => True) (Announced current?) (IsSame Piece.IsContent)
      (renderer grammar settings) (renderer grammar settings) where
  optional greedy _ _ _ := by
    rintro ⟨rfl, operand⟩
    exact .pure ⟨rfl, operand.quantified "?" greedy⟩
  plus greedy _ _ _ := by
    rintro ⟨rfl, operand⟩
    exact .pure ⟨rfl, operand.quantified "+" greedy⟩
  star greedy _ _ _ := by
    rintro ⟨rfl, operand⟩
    exact .pure ⟨rfl, operand.quantified "*" greedy⟩
  negation _ _ _ := by
    rintro ⟨rfl, operand⟩
    exact .pure ⟨rfl, List.forall_mem_cons.mpr ⟨Step.isContent_symbol "~", operand⟩⟩
  range _ _ _ _ _ := by
    rintro ⟨rfl, left⟩ ⟨rfl, right⟩
    refine .pure ⟨rfl, List.forall_mem_append.mpr ⟨left, ?_⟩⟩
    exact List.forall_mem_cons.mpr ⟨Step.isContent_string "..", right⟩
  block grouping _ _ _ all := by
    obtain ⟨rfl, each⟩ := IsSame.forall₂ all
    exact .pure ⟨rfl, Piece.isContent_choice grouping each⟩
  set grouping _ _ _ all := by
    obtain ⟨rfl, each⟩ := IsSame.forall₂ all
    exact .pure ⟨rfl, Piece.isContent_choice grouping each⟩
  alternative grouping _ _ _ all := by
    obtain ⟨rfl, each⟩ := IsSame.forall₂ all
    rintro state _ ⟨rfl, announced⟩
    exact ⟨⟨rfl, Piece.isContent_alternative state.lineBreaks? settings.columnBudget grouping each⟩,
      rfl, announced⟩
  sequence _ _ _ all := by
    obtain ⟨rfl, each⟩ := IsSame.forall₂ all
    exact .pure ⟨rfl, Piece.isContent_sequence each⟩
  terminal shown _ := by
    rintro state _ ⟨rfl, announced⟩
    obtain ⟨contents, kept⟩ := isContent_showTerminal grammar settings shown state
    exact ⟨⟨rfl, contents⟩, rfl, kept.trans announced⟩
  ruleRef name _ := by
    rintro state _ ⟨rfl, announced⟩
    refine ⟨⟨rfl, ?_⟩, rfl, announced⟩
    exact List.forall_mem_cons.mpr ⟨Piece.isContent_identifier name,
      List.forall_mem_singleton.mpr (Step.isContent_reference name _)⟩
  charSet body _ := .pure ⟨rfl, Piece.isContent_string _⟩
  placeholder _ := .pure ⟨rfl, nofun⟩
  predicate _ := .pure ⟨rfl, nofun⟩

/-- A body is rendered to contents. -/
theorem isContent_of_render {grammar : Grammar} {settings : Settings} {body : Node}
    {position : Position} {state reached : State} {piece : Piece}
    (rendered : (body.render (renderer grammar settings) position).run state =
      .ok (piece, reached)) : piece.IsContent ∧ reached.current? = state.current? := by
  have kinds : body.AllKinds fun _ => True := fun _ _ => trivial
  have outcome := (matches_renderer_self grammar settings state.current?).render kinds position
    state state ⟨rfl, rfl⟩
  rw [rendered] at outcome
  cases outcome with
  | ok value announced => exact ⟨value.2, announced.2⟩

/-- The steps of an entry around the steps of a body. -/
def entrySteps (settings : Settings) (name : String) (body : List Step) : List Step :=
  Piece.startMark (settings.isStartRule name) ++
    [Piece.declaration name, Piece.description body]

/-- A rule is rendered to an entry around contents, which opens the section whose marker stands
above the rule. -/
theorem entry_of_render {grammar : Grammar} {settings : Settings} {rule : Rule}
    {state reached : State} {entry : Piece}
    (rendered : (rule.render (renderer grammar settings)).run state = .ok (entry, reached)) :
    ∃ body : List Step, (∀ step ∈ body, step.IsContent) ∧
      entry.steps = entrySteps settings rule.name body ∧
        entry.heading? = Section.openedAt? (grammar.source rule.kind)
          settings.sectionMarkerOffset rule.line := by
  obtain ⟨⟨⟩, announced, entered, rest⟩ := Descent.run_bind_eq_ok rendered
  obtain ⟨piece, middle, body, around⟩ := Descent.run_bind_eq_ok rest
  obtain ⟨contents, kept⟩ := isContent_of_render body
  have current : middle.current? =
      some ⟨rule.name, rule.kind, settings.breaksOf? rule.name⟩ := by
    rw [kept, ← (Prod.mk.inj (Except.ok.inj entered)).2]
  rw [← (Prod.mk.inj (Except.ok.inj around)).1]
  refine ⟨piece.steps, contents, ?_, ?_⟩
  · simp [entrySteps]
  · simp [State.currentKind, current]

/-- The steps of an entry stay in its item. -/
theorem placed_entrySteps (settings : Settings) (name : String) {body : List Step}
    (contents : ∀ step ∈ body, step.IsContent) :
    ∀ step ∈ entrySteps settings name body, step.Placed "item" := by
  have mark : ∀ step ∈ Piece.startMark (settings.isStartRule name), step.Placed "item" := by
    unfold Piece.startMark
    split
    · exact List.forall_mem_singleton.mpr (.element (List.forall_mem_singleton.mpr (.text _ "start")))
    · exact nofun
  have declared : (Piece.declaration name).Placed "item" := by
    refine .element (List.forall_mem_cons.mpr ⟨.setAttribute _ "name" name, ?_⟩)
    exact List.forall_mem_singleton.mpr (.declare name)
  have end_mark : (Step.element "other" [.text ";"]).IsContent :=
    Step.isContent_element (List.forall_mem_singleton.mpr (.text _ ";")) (by decide) rfl
  have described : (Piece.description body).Placed "item" := by
    have each : ∀ step ∈ [.whitespace 2, .symbol ":", .whitespace 1] ++ body ++
        [.lineEnd, .whitespace 2, .element "other" [.text ";"]], step.IsContent := by
      simpa [List.forall_mem_append, or_imp, forall_and] using ⟨contents, end_mark⟩
    exact .element fun step member => (each step member).placed
  refine List.forall_mem_append.mpr ⟨mark, List.forall_mem_cons.mpr ⟨declared, ?_⟩⟩
  exact List.forall_mem_singleton.mpr described

/-- The steps of an entry add no documentation. -/
theorem plain_entrySteps (settings : Settings) (name : String) {body : List Step}
    (contents : ∀ step ∈ body, step.IsContent) :
    Markup.namedAll "doc" (Step.markupAll (entrySteps settings name body)) = [] := by
  have shown : Markup.namedAll "doc" (body.flatMap Step.markup) = [] := by
    rw [Markup.namedAll_eq, List.flatMap_assoc, List.flatMap_eq_nil_iff]
    intro step member
    rw [← Markup.namedAll_eq, (contents step member).plain]
  unfold entrySteps Piece.startMark
  split <;>
    simp [Step.markupAll_eq, Step.markup, Markup.namedAll_append, Markup.namedAll, Markup.named,
      Piece.declaration, Piece.description, Step.whitespace, Step.string, Step.symbol, Step.lineEnd,
      Step.empty, shown]

end Catalogue
end Rulebook
