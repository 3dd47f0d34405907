import Rulebook.Proofs.Listing.Layout
import Rulebook.Proofs.Listing.Paragraphs

/-!
# Listings with another layout

Widths and settled line breaks decide only where the blanks and the line ends of a listing stand.  The
line breaks of a single rule change no other paragraph.
-/

namespace Rulebook

/-- Settings with other widths and other settled line breaks. -/
def Settings.withLayout (settings : Settings) (columnBudget textColumnBudget : Nat)
    (lineBreaks : List (String × List Nat)) : Settings :=
  { settings with columnBudget, textColumnBudget, lineBreaks }

namespace Listing

/-! ### What a body shows whatever its layout -/

/-- The characters of a body apart from white space and the marks of breaks. -/
def solid (text : Piece) : List Char :=
  visible false (text.map unmark)

section

variable (lineBreaks? : Option (List Nat)) (grouping : Bool)

@[simp]
theorem solid_append (first second : Piece) :
    solid (first ++ second) = solid first ++ solid second := by
  rw [solid, List.map_append, visible_append, ← solid, ← solid]

theorem solid_cons (character : Char) (rest : Piece) :
    solid (character :: rest) = solid [character] ++ solid rest :=
  solid_append [character] rest

theorem solid_join (separator : Piece) (pieces : List Piece) :
    solid (join separator pieces) = join (solid separator) (pieces.map solid) := by
  induction pieces with
  | nil => rfl
  | cons piece later induction =>
      cases later with
      | nil => rfl
      | cons => simp only [join, List.map_cons, solid_append, induction]

theorem solid_group (count : Nat) (body : Piece) :
    solid (group grouping count body) = group grouping count (solid body) := by
  unfold group
  split
  · rw [solid_append, solid_cons]
    rfl
  · rfl

/-- Alternatives show the bars between them, on one line or on more. -/
theorem solid_choice (pieces : List Piece) :
    solid (choice grouping pieces) =
      group grouping pieces.length (join ['|'] (pieces.map solid)) := by
  unfold choice
  split
  · rw [solid_group, solid_join]
    rfl
  · rename_i whole
    rw [group, if_neg whole, solid_join]
    rfl

/-- What stands before an element shows nothing. -/
theorem solid_separator (position : Nat) : solid [separator lineBreaks? position] = [] := by
  unfold separator
  split
  · decide
  · split <;> decide

theorem solid_separated (position : Nat) (pieces : List Piece) :
    solid (separated lineBreaks? position pieces) = (pieces.map solid).flatten := by
  induction pieces generalizing position with
  | nil => rfl
  | cons piece later induction =>
      rw [separated, List.cons_append, solid_cons, solid_separator, solid_append, induction]
      rfl

theorem solid_elements (pieces : List Piece) :
    solid (elements lineBreaks? pieces) = (pieces.map solid).flatten := by
  cases pieces with
  | nil => rfl
  | cons first later => rw [elements, solid_append, solid_separated, List.map_cons, List.flatten_cons]

end

/-- Does a body show the same as another, whatever the layout? -/
def SameSolid (text other : Piece) : Prop :=
  solid text = solid other

theorem map_solid_eq {texts others : List Piece} (all : List.Forall₂ SameSolid texts others) :
    texts.map solid = others.map solid := by
  rw [← List.forall₂_eq_eq_eq, List.forall₂_map_left_iff, List.forall₂_map_right_iff]
  exact all

/-- Has the same been absorbed in two states? -/
def SameInlining (first second : State) : Prop :=
  first.inlining = second.inlining

section

variable {grammar : Grammar} {settings : Settings} {columnBudget textColumnBudget : Nat}
  {lineBreaks : List (String × List Nat)}

/-- With another layout every node shows the same. -/
theorem matches_withLayout :
    Renderer.Matches (fun _ => True) SameInlining SameSolid
      (renderer grammar (settings.withLayout columnBudget textColumnBudget lineBreaks))
      (renderer grammar settings) where
  optional greedy text other _ same := .pure (by rw [SameSolid, solid_append, same, solid_append])
  plus greedy text other _ same := .pure (by rw [SameSolid, solid_append, same, solid_append])
  star greedy text other _ same := .pure (by rw [SameSolid, solid_append, same, solid_append])
  negation text other _ same := .pure (by rw [SameSolid, solid_cons, same, ← solid_cons])
  range left right left' right' _ first second := .pure <| by
    rw [SameSolid] at first second ⊢
    simp only [solid_append, first, second]
  block grouping texts others _ all :=
    .pure (by rw [SameSolid, solid_choice, solid_choice, map_solid_eq all, all.length_eq])
  set grouping texts others _ all :=
    .pure (by rw [SameSolid, solid_choice, solid_choice, map_solid_eq all, all.length_eq])
  alternative grouping texts others _ all := by
    intro state other related
    refine ⟨?_, related⟩
    have same : solid (group grouping texts.length (elements state.lineBreaks? texts)) =
        solid (group grouping others.length (elements other.lineBreaks? others)) := by
      rw [solid_group, solid_group, solid_elements, solid_elements, map_solid_eq all, all.length_eq]
    exact same
  sequence texts others _ all :=
    .pure (by rw [SameSolid, solid_join, solid_join, map_solid_eq all])
  terminal shown _ := by
    intro state other related
    cases shown with
    | literal value => exact ⟨rfl, related⟩
    | token name =>
        obtain ⟨inlining, _⟩ := state
        obtain ⟨_, _⟩ := other
        cases related
        exact ⟨rfl, rfl⟩
  ruleRef _ _ := .pure rfl
  charSet _ _ := .pure rfl
  placeholder _ := .pure rfl
  predicate _ := .pure rfl

/-- A paragraph shows its name and its body between a colon and a semicolon. -/
theorem visible_paragraph (budget : Nat) (name : String) (body : Piece) :
    visible false (paragraph budget name body) =
      visible false name.toList ++ [':'] ++ solid body ++ [';'] := by
  have laid_out : visible false (layout budget 2 body) = solid body :=
    visible_of_resolves nofun (resolves_layout budget 2 body)
  simp only [paragraph, visible_append, laid_out]
  rfl

/-- With another layout the paragraph of a rule shows the same. -/
theorem visible_paragraphOf_withLayout (rule : Rule) :
    visible false (paragraphOf grammar (settings.withLayout columnBudget textColumnBudget lineBreaks)
        rule) =
      visible false (paragraphOf grammar settings rule) := by
  have alike : Descent.Match SameInlining (fun text other => visible false text = visible false other)
      (rule.render (renderer grammar
        (settings.withLayout columnBudget textColumnBudget lineBreaks)))
      (rule.render (renderer grammar settings)) := by
    refine matches_withLayout.rule (fun _ _ => trivial) (fun _ _ related => related) ?_
    intro text other same start origin related
    refine ⟨?_, related⟩
    have bodies : solid ([text] : List Piece).flatten = solid ([other] : List Piece).flatten := by
      rw [List.flatten_singleton, List.flatten_singleton, same]
    exact (visible_paragraph _ _ _).trans ((visible_paragraph _ _ _).trans (by rw [bodies])).symm
  have outcome := alike {} {} rfl
  rw [paragraphOf, paragraphOf]
  generalize (rule.render (renderer grammar (settings.withLayout ..))).run {} = first at outcome ⊢
  generalize (rule.render (renderer grammar settings)).run {} = second at outcome ⊢
  cases outcome with
  | ok same _ =>
      simp only [lexerParagraph]
      split
      · rw [visible_append, visible_append, same]
      · exact same
  | error => rfl

/-- The listings of a valid grammar with two layouts differ in blanks and line ends only. -/
theorem exists_ofGrammar_withLayout (valid : grammar.validate = .ok ()) (settings : Settings)
    (columnBudget textColumnBudget : Nat) (lineBreaks : List (String × List Nat)) :
    ∃ text other,
      ofGrammar grammar (settings.withLayout columnBudget textColumnBudget lineBreaks) = .ok text ∧
        ofGrammar grammar settings = .ok other ∧
          visible false text.toList = visible false other.toList := by
  refine ⟨_, _, (ofGrammar_eq valid _).1, (ofGrammar_eq valid settings).1, ?_⟩
  rw [String.toList_ofList, String.toList_ofList]
  have listed : listedRules grammar
      (settings.withLayout columnBudget textColumnBudget lineBreaks) = listedRules grammar settings := rfl
  rw [listed]
  induction listedRules grammar settings with
  | nil => rfl
  | cons rule later induction =>
      rw [List.flatMap_cons, visible_append, induction, visible_paragraphOf_withLayout, ← visible_append,
        List.flatMap_cons]

/-! ### Line breaks of one rule -/

/-- Settled line breaks of one rule do not count in any other. -/
theorem render_of_lineBreaks {name : String}
    (same : ∀ other, other ≠ name → lineBreaks.lookup other = settings.breaksOf? other) {rule : Rule}
    (apart : rule.name ≠ name) :
    rule.render (renderer grammar { settings with lineBreaks }) =
      rule.render (renderer grammar settings) := by
  have announced : (renderer grammar { settings with lineBreaks }).enter rule =
      (renderer grammar settings).enter rule := by
    have breaks : Settings.breaksOf? { settings with lineBreaks } rule.name =
        settings.breaksOf? rule.name := same rule.name apart
    simp only [renderer, breaks]
  exact Rule.render_with_enter announced

end
end Listing
end Rulebook
