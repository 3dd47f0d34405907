import Mathlib.Data.List.Forall2
import Rulebook.Listing.Paragraph
import Rulebook.Proofs.Catalogue.Shown
import Rulebook.Proofs.Grammar.Inlining
import Rulebook.Proofs.Listing.Layout

/-!
# Pieces of the listing and of the catalogue

What the listing adds for a node agrees with what the catalogue adds: both show the same characters
and differ in white space only.  Where line breaks are settled, both end their lines at the same
places.
-/

namespace Rulebook

/-- Do a text of the listing and steps of the catalogue show the same?  Where line breaks are settled,
that includes the line ends. -/
structure Agrees (settled : Bool) (text : Listing.Piece) (steps : List Step) : Prop where
  /-- The text leaves no line break open. -/
  determined : settled = true → Listing.softBreak ∉ text
  /-- Both show the same. -/
  visible_eq : visible settled (text.map Listing.unmark) = visible settled (Step.shown steps)

namespace Agrees

variable {settled : Bool}

theorem nil : Agrees settled [] [] where
  determined _ := List.not_mem_nil
  visible_eq := rfl

theorem append {text rest : Listing.Piece} {steps later : List Step}
    (first : Agrees settled text steps) (second : Agrees settled rest later) :
    Agrees settled (text ++ rest) (steps ++ later) where
  determined counted := by
    rw [List.mem_append, not_or]
    exact ⟨first.determined counted, second.determined counted⟩
  visible_eq := by
    rw [List.map_append, Step.shown_append, visible_append, visible_append, first.visible_eq,
      second.visible_eq]

/-- A clean text agrees with a step that shows it. -/
theorem of_shown {text : Listing.Piece} {step : Step} (clean : IsClean text)
    (shows : Step.shown [step] = text) : Agrees settled text [step] where
  determined _ member :=
    (Listing.ne_breaks_of_isControl (clean _ member).2).1 rfl
  visible_eq := by rw [Listing.map_unmark_of_isClean clean, shows]

theorem symbol (sign : String) (clean : IsClean sign.toList) :
    Agrees settled sign.toList [.symbol sign] :=
  .of_shown clean (Step.shown_symbol sign)

theorem string (value : String) (clean : IsClean value.toList) :
    Agrees settled value.toList [.string value] :=
  .of_shown clean ((Step.shown_string value).trans (Step.shownText_of_not_mem clean.not_mem))

/-- A filler agrees with any text that resolves to blanks. -/
theorem whitespace {text : Listing.Piece} (count : Nat)
    (determined : settled = true → Listing.softBreak ∉ text)
    (blank : visible settled (text.map Listing.unmark) = []) :
    Agrees settled text [.whitespace count] where
  determined := determined
  visible_eq := by rw [blank, Step.shown_whitespace, visible_replicate_blank]

theorem blank (count : Nat) : Agrees settled [' '] [.whitespace count] :=
  whitespace count (fun _ => by decide) (by cases settled <;> decide)

theorem filler (count : Nat) : Agrees settled [] [.whitespace count] :=
  whitespace count (fun _ => List.not_mem_nil) rfl

/-- The end of a line agrees with any text that resolves to one. -/
theorem lineEnd_of_visible {text : Listing.Piece}
    (determined : settled = true → Listing.softBreak ∉ text)
    (ends : visible settled (text.map Listing.unmark) = visible settled ['\n']) :
    Agrees settled text [.lineEnd] where
  determined := determined
  visible_eq := by rw [ends, Step.shown_lineEnd]

theorem lineEnd : Agrees settled ['\n'] [.lineEnd] :=
  lineEnd_of_visible (fun _ => by decide) rfl

/-! ### Operators, groups and choices -/

theorem quantified {operand : Listing.Piece} {piece : Catalogue.Piece} {sign : String} {mark : Char}
    (same : sign.toList = [mark]) (clean : IsClean sign.toList) (greedy : Bool)
    (agrees : Agrees settled operand piece.steps) :
    Agrees settled (operand ++ Listing.quantifier mark greedy) (piece.quantified sign greedy).steps := by
  have signed : Agrees settled [mark] [.symbol sign] := same ▸ symbol sign clean
  cases greedy with
  | true => exact agrees.append signed
  | false => exact agrees.append (signed.append (symbol "?" (isClean_of_isSign (by simp))))

theorem range {left right : Listing.Piece} {piece other : Catalogue.Piece}
    (first : Agrees settled left piece.steps) (second : Agrees settled right other.steps) :
    Agrees settled (left ++ ['.', '.'] ++ right) (piece.steps ++ .string ".." :: other.steps) := by
  have dots : Agrees settled ['.', '.'] [.string ".."] := string ".." (isClean_of_isSign (by simp))
  rw [List.append_assoc]
  exact first.append (dots.append second)

theorem group {text : Listing.Piece} {steps : List Step} (grouping : Bool) (count : Nat)
    (agrees : Agrees settled text steps) :
    Agrees settled (Listing.group grouping count text)
      (Catalogue.Piece.group grouping count steps) := by
  unfold Listing.group Catalogue.Piece.group
  split
  · have opened := (symbol "(" (isClean_of_isSign (by simp))).append agrees
    exact opened.append (symbol ")" (isClean_of_isSign (by simp)))
  · exact agrees

/-- Do the two renderings of each of some nodes agree? -/
abbrev All (settled : Bool) (texts : List Listing.Piece) (pieces : List Catalogue.Piece) : Prop :=
  List.Forall₂ (fun text piece => Agrees settled text piece.steps) texts pieces

theorem join {separator : Listing.Piece} {between : List Step}
    (separates : Agrees settled separator between) {texts : List Listing.Piece}
    {pieces : List Catalogue.Piece} (later : All settled texts pieces) {text : Listing.Piece}
    {piece : Catalogue.Piece} (first : Agrees settled text piece.steps) :
    Agrees settled (Listing.join separator (text :: texts))
      (piece.steps ++ pieces.flatMap fun piece => between ++ piece.steps) := by
  induction later generalizing text piece with
  | nil => simpa [Listing.join] using first
  | cons next _ induction =>
      rw [Listing.join, List.flatMap_cons, List.append_assoc between, ← List.append_assoc]
      · exact (first.append separates).append (induction next)
      · simp

theorem bar (grouping : Bool) :
    Agrees settled (if grouping then [' ', '|', ' '] else ['\n', '|', ' '])
      (Catalogue.Piece.bar grouping) := by
  have signed : Agrees settled ['|', ' '] [.symbol "|", .whitespace 1] :=
    (symbol "|" (isClean_of_isSign (by simp))).append (blank 1)
  cases grouping with
  | true => exact (blank 1).append signed
  | false => exact (lineEnd.append (filler 2)).append signed

theorem barred_eq (grouping : Bool) (pieces : List Catalogue.Piece) :
    Catalogue.Piece.barred grouping pieces =
      pieces.flatMap fun piece => Catalogue.Piece.bar grouping ++ piece.steps := by
  induction pieces with
  | nil => rfl
  | cons piece pieces induction => rw [Catalogue.Piece.barred, List.flatMap_cons, induction]

theorem choice {texts : List Listing.Piece} {pieces : List Catalogue.Piece} (grouping : Bool)
    (all : All settled texts pieces) :
    Agrees settled (Listing.choice grouping texts) (Catalogue.Piece.choice grouping pieces).steps := by
  have count := all.length_eq
  cases all with
  | nil => simpa [Listing.choice, Listing.join, Catalogue.Piece.choice, Catalogue.Piece.alternatives,
      Catalogue.Piece.group] using Agrees.nil
  | @cons text piece texts pieces first later =>
      have joined := join (bar grouping) later first
      rw [← barred_eq] at joined
      simp only [Listing.choice, Catalogue.Piece.choice, Catalogue.Piece.alternatives, ← count]
      split
      · rename_i grouped
        have groups : grouping = true := (Bool.and_eq_true_iff.mp grouped).1
        subst groups
        exact joined.group true _
      · rename_i single
        rw [Catalogue.Piece.group, if_neg single]
        cases grouping with
        | false => exact joined
        | true =>
            cases later with
            | nil => exact joined
            | cons => simp at single

/-! ### Alternatives and sequences -/

theorem separator (lineBreaks? : Option (List Nat)) (budget position buffered : Nat) :
    Agrees lineBreaks?.isSome [Listing.separator lineBreaks? position]
      (if Catalogue.Piece.breaksBefore lineBreaks? budget position buffered then
        Catalogue.Piece.continuation ++ [.whitespace 1] else [.whitespace 1]) := by
  cases lineBreaks? with
  | none =>
      have soft : Agrees false [Listing.softBreak] [.whitespace 1] := whitespace 1 nofun (by decide)
      split
      · have free : Agrees false [] [.lineEnd] := lineEnd_of_visible nofun (by decide)
        exact (free.append (filler 3)).append soft
      · exact soft
  | some positions =>
      have settled : Catalogue.Piece.breaksBefore (some positions) budget position buffered =
          positions.contains position := rfl
      rw [settled, Listing.separator, Option.isSome_some]
      by_cases breaks : positions.contains position = true
      · rw [if_pos breaks, if_pos breaks]
        have hard : Agrees true [Listing.hardBreak] [.lineEnd] :=
          lineEnd_of_visible (fun _ => by decide) (by decide)
        exact (hard.append (filler 3)).append (filler 1)
      · rw [if_neg breaks, if_neg breaks]
        exact blank 1

theorem separated (lineBreaks? : Option (List Nat)) (budget : Nat) {texts : List Listing.Piece}
    {pieces : List Catalogue.Piece} (all : All lineBreaks?.isSome texts pieces)
    (position buffered : Nat) :
    Agrees lineBreaks?.isSome (Listing.separated lineBreaks? position texts)
      (Catalogue.Piece.filled lineBreaks? budget position buffered pieces) := by
  induction all generalizing position buffered with
  | nil => exact .nil
  | @cons text piece _ _ first _ induction =>
      have opens := separator lineBreaks? budget position (buffered + piece.length)
      rw [Listing.separated, Catalogue.Piece.filled]
      split
      · rename_i breaks
        rw [if_pos breaks] at opens
        simpa using (opens.append first).append (induction (position + 1) 0)
      · rename_i breaks
        rw [if_neg breaks] at opens
        exact (opens.append first).append (induction (position + 1) (buffered + piece.length))

theorem alternative (lineBreaks? : Option (List Nat)) (budget : Nat) (grouping : Bool)
    {texts : List Listing.Piece} {pieces : List Catalogue.Piece}
    (all : All lineBreaks?.isSome texts pieces) :
    Agrees lineBreaks?.isSome
      (Listing.group grouping texts.length (Listing.elements lineBreaks? texts))
      (Catalogue.Piece.alternative lineBreaks? budget grouping pieces).steps := by
  rw [Catalogue.Piece.alternative, all.length_eq]
  refine group grouping _ ?_
  cases all with
  | nil => exact .nil
  | cons first later => exact first.append (separated lineBreaks? budget later 1 0)

theorem spaced_eq (pieces : List Catalogue.Piece) :
    Catalogue.Piece.spaced pieces =
      pieces.flatMap fun piece => [Step.whitespace 1] ++ piece.steps := by
  induction pieces with
  | nil => rfl
  | cons piece pieces induction =>
      rw [Catalogue.Piece.spaced, List.flatMap_cons, induction]
      rfl

theorem sequence {texts : List Listing.Piece} {pieces : List Catalogue.Piece}
    (all : All settled texts pieces) :
    Agrees settled (Listing.join [' '] texts) (Catalogue.Piece.sequence pieces).steps := by
  cases all with
  | nil => exact .nil
  | cons first later =>
      have joined := join (blank 1) later first
      rw [← spaced_eq] at joined
      exact joined

/-! ### Leaves -/

theorem literal {value : String} (clean : IsClean value.toList) :
    Agrees settled (Terminal.literal value).written.toList
      [.string (Terminal.literal value).written] := by
  refine string _ ?_
  have quote : IsClean "'".toList := isClean_of_isSign (by simp)
  simp only [Terminal.written, Text.quotedLiteral, Text.escapeLiteral, String.toList_append,
    String.toList_ofList]
  exact (quote.append (clean.escaped .quote)).append quote

theorem charSet {body : String} (clean : IsClean body.toList) :
    Agrees settled (Text.bracketedSet body).toList [.string (Text.bracketedSet body)] := by
  refine string _ ?_
  have opening : IsClean "[".toList := isClean_of_isSign (by simp)
  have closing : IsClean "]".toList := isClean_of_isSign (by simp)
  simp only [Text.bracketedSet, Text.escapeSet, String.toList_append, String.toList_ofList]
  exact (opening.append (clean.escaped .bracket)).append closing

theorem reference (target user : String) : Agrees settled [] [.reference target user] where
  determined _ := List.not_mem_nil
  visible_eq := rfl

theorem identifier {name : String} (named : Notation.IsIdentifier name) :
    Agrees settled name.toList [Catalogue.Piece.identifier name] :=
  .of_shown (isClean_of_isIdentifier named) (Step.shown_identifier name)

theorem ruleRef {name : String} (named : Notation.IsIdentifier name) (user : String) :
    Agrees settled name.toList [Catalogue.Piece.identifier name, .reference name user] := by
  simpa using (identifier named).append (reference name user)

/-- A token that keeps its name shows it, as a link, as a reference or as text. -/
theorem token (grammar : Grammar) (settings : Settings) {name : String}
    (named : Notation.IsIdentifier name) :
    Agrees settled name.toList [Catalogue.Piece.token grammar settings name] := by
  have clean := isClean_of_isIdentifier named
  unfold Catalogue.Piece.token
  split
  · rename_i address _
    refine .of_shown clean (Step.shown_link address fun member => ?_)
    exact absurd (named.isNameCharacter '>' member) (by decide +kernel)
  · split
    · exact identifier named
    · exact string name clean

end Agrees

/-- Is the text of a literal or of a character set clean? -/
def NodeKind.IsClean : NodeKind → Prop
  | .terminal (.literal value) => Rulebook.IsClean value.toList
  | .charSet body => Rulebook.IsClean body.toList
  | _ => True

instance : DecidablePred NodeKind.IsClean
  | .terminal (.literal value) => inferInstanceAs (Decidable (IsClean value.toList))
  | .charSet body => inferInstanceAs (Decidable (IsClean body.toList))
  | .terminal (.token _) | .ruleRef _ | .sequence | .alternative | .block | .set | .optional _
  | .plus _ | .star _ | .negation | .range | .predicate | .placeholder => isTrue trivial

/-- Are all literals and character sets of a grammar clean? -/
def Grammar.IsClean (grammar : Grammar) : Prop :=
  ∀ kind, ∀ rule ∈ grammar.rules kind, rule.body.AllKinds NodeKind.IsClean

/-- The spelling of a token is one of the literals of its rule, so it is clean. -/
theorem Grammar.IsClean.spelling {grammar : Grammar} (clean : grammar.IsClean)
    {settings : Settings} {token spelling : String} {inlining : Inlining}
    (shown : ((Inlining.resolve grammar settings token).run inlining).1 = some spelling) :
    Rulebook.IsClean spelling.toList := by
  obtain ⟨rule, found, sole⟩ := Inlining.resolve_eq_some shown
  obtain ⟨-, member, -⟩ := Rule.soleSpelling?_eq_some sole
  obtain ⟨⟨kind, children⟩, inside, literal⟩ := List.mem_filterMap.mp member
  have clean_kind := clean .lexer rule (List.mem_of_find?_eq_some found) _ inside
  simp only [Node.spelling?, Node.kind] at literal clean_kind
  split at literal
  · rw [Option.some.inj literal] at clean_kind
    exact clean_kind
  · simp at literal

end Rulebook
