import Rulebook.Proofs.Listing.Weaving
import Rulebook.Proofs.Notation.Accepted

/-!
# Lines of the listing

A paragraph has a line with the name of its rule, a line that begins with a colon, lines that begin
with a bar or an indent, and a line with a semicolon.  The texts of the tips stand in these lines
unchanged and in order, unless the spelling of an inlined token holds a break mark or a line end: every
other text is escaped, but a spelling is shown as it is.
-/

namespace Rulebook
namespace Listing

/-- What starts a line in a written body. -/
def lineStarts : List (List Char) :=
  [['\n', '|', ' '], ['\n', ' ', ' ', ' ', ' ']]

theorem ne_breaks_of_mem_signs {sign : Char} (listed : sign ∈ signs) :
    sign ≠ softBreak ∧ sign ≠ hardBreak ∧ sign ≠ '\n' := by
  revert sign
  decide

/-- The layout keeps the leaves that hold no break marks. -/
theorem Weaves.of_resolves {leaves : List (List Char)} {text written : List Char}
    (weaves : Weaves bodyStarts leaves text)
    (plain : ∀ leaf ∈ leaves, ∀ character ∈ leaf, character ≠ softBreak ∧ character ≠ hardBreak)
    (resolved : Resolves text written) : Weaves lineStarts leaves written := by
  induction weaves generalizing written with
  | nil =>
      cases resolved with
      | nil => exact .nil
  | leaf leaf _ induction =>
      rw [List.forall_mem_cons] at plain
      obtain ⟨front, back, rfl, first, later⟩ := resolved.of_append
      rw [first.eq_of_plain plain.1]
      exact .leaf leaf (induction plain.2 later)
  | sign listed _ induction =>
      obtain ⟨no_soft, no_hard, -⟩ := ne_breaks_of_mem_signs listed
      obtain ⟨back, rfl, later⟩ := resolved.of_cons no_soft no_hard
      exact .sign listed (induction plain later)
  | start listed _ induction =>
      simp only [bodyStarts, List.mem_cons, List.not_mem_nil, or_false] at listed
      rcases listed with rfl | rfl | rfl
      · cases resolved with
        | blank later => exact .sign (by decide) (induction plain later)
        | line later => exact .start (by decide) (induction plain later)
        | kept no_soft => exact (no_soft rfl).elim
      · cases resolved with
        | forced later => exact .start (by decide) (induction plain later)
        | kept _ no_hard => exact (no_hard rfl).elim
      · obtain ⟨front, back, rfl, bar, later⟩ := resolved.of_append
        rw [bar.eq_of_plain (by decide)]
        exact .start (by decide) (induction plain later)

/-- No break marks are written. -/
theorem ne_breaks_of_resolves {text written : List Char} (resolved : Resolves text written) :
    ∀ character ∈ written, character ≠ softBreak ∧ character ≠ hardBreak := by
  have indent : ∀ character ∈ continuationBreak, character ≠ softBreak ∧ character ≠ hardBreak := by
    decide
  induction resolved with
  | nil => exact nofun
  | blank _ induction => exact List.forall_mem_cons.mpr ⟨by decide, induction⟩
  | line _ induction => exact List.forall_mem_append.mpr ⟨indent, induction⟩
  | forced _ induction => exact List.forall_mem_append.mpr ⟨indent, induction⟩
  | kept no_soft no_hard _ induction => exact List.forall_mem_cons.mpr ⟨⟨no_soft, no_hard⟩, induction⟩

/-- A text in lines, of which all but the first follow a line end. -/
def inLines (first : List Char) (more : List (List Char)) : List Char :=
  first ++ more.flatMap ('\n' :: ·)

/-- A text between whose leaves lines are started has its lines. -/
theorem Weaves.exists_inLines {leaves : List (List Char)} {text : List Char}
    (weaves : Weaves lineStarts leaves text) (unbroken : ∀ leaf ∈ leaves, '\n' ∉ leaf) :
    ∃ first more, text = inLines first more ∧ '\n' ∉ first ∧
      ∀ line ∈ more, '\n' ∉ line ∧ (['|', ' '] <+: line ∨ [' ', ' ', ' ', ' '] <+: line) := by
  induction weaves with
  | nil => exact ⟨[], [], rfl, nofun, nofun⟩
  | leaf leaf _ induction =>
      rw [List.forall_mem_cons] at unbroken
      obtain ⟨first, more, rfl, whole, each⟩ := induction unbroken.2
      refine ⟨leaf ++ first, more, (List.append_assoc ..).symm, ?_, each⟩
      exact fun member => (List.mem_append.mp member).elim unbroken.1 whole
  | @sign _ _ sign listed _ induction =>
      obtain ⟨first, more, rfl, whole, each⟩ := induction unbroken
      refine ⟨sign :: first, more, rfl, fun member => ?_, each⟩
      rcases List.mem_cons.mp member with same | later
      · exact (ne_breaks_of_mem_signs listed).2.2 same.symm
      · exact whole later
  | @start _ _ start listed _ induction =>
      obtain ⟨first, more, rfl, whole, each⟩ := induction unbroken
      obtain ⟨opening, rfl, no_line_end, framed⟩ : ∃ opening, start = '\n' :: opening ∧
          '\n' ∉ opening ∧ (opening = ['|', ' '] ∨ opening = [' ', ' ', ' ', ' ']) := by
        simp only [lineStarts, List.mem_cons, List.not_mem_nil, or_false] at listed
        rcases listed with rfl | rfl
        · exact ⟨['|', ' '], rfl, by decide, .inl rfl⟩
        · exact ⟨[' ', ' ', ' ', ' '], rfl, by decide, .inr rfl⟩
      refine ⟨[], (opening ++ first) :: more, ?_, nofun, List.forall_mem_cons.mpr ⟨⟨?_, ?_⟩, each⟩⟩
      · simp [inLines]
      · exact fun member => (List.mem_append.mp member).elim no_line_end whole
      · rcases framed with rfl | rfl
        · exact .inl (List.prefix_append _ first)
        · exact .inr (List.prefix_append _ first)

/-! ### Paragraphs -/

/-- The text of the first line of a paragraph. -/
def heading (rule : Rule) : List Char :=
  (if rule.isFragment then "[helper] ".toList else []) ++ rule.name.toList

/-- Is a text a paragraph under a heading that shows some leaves, unchanged and in order, in lines that
begin with a bar or an indent?  No other line breaks occur. -/
def IsFramed (heading : List Char) (leaves : List (List Char)) (text : Piece) : Prop :=
  ∃ first more, text = heading ++ ['\n', ':', ' '] ++ inLines first more ++ ['\n', ';', '\n', '\n'] ∧
    '\n' ∉ heading ∧ '\n' ∉ first ∧
      (∀ line ∈ more, '\n' ∉ line ∧ (['|', ' '] <+: line ∨ [' ', ' ', ' ', ' '] <+: line)) ∧
        (∀ leaf ∈ leaves, '\n' ∉ leaf) ∧ Weaves lineStarts leaves (inLines first more)

/-- Is a text without break marks and line ends? -/
def IsUnbroken (text : List Char) : Prop :=
  ∀ character ∈ text, character ≠ '\x01' ∧ character ≠ '\x02' ∧ character ≠ '\n'

theorem ne_lineEnds_of_isControl {character : Char}
    (printable : Unicode.isControl character = false) :
    character ≠ '\x01' ∧ character ≠ '\x02' ∧ character ≠ '\n' := by
  obtain ⟨no_soft, no_hard⟩ := ne_breaks_of_isControl printable
  refine ⟨no_soft, no_hard, ?_⟩
  rintro rfl
  exact absurd printable (by decide)

theorem isUnbroken_of_isIdentifier {name : String} (identifier : Notation.IsIdentifier name) :
    IsUnbroken name.toList :=
  fun character member =>
    ne_lineEnds_of_isControl (isClean_of_isIdentifier identifier character member).2

theorem IsUnbroken.ne {text : List Char} (unbroken : IsUnbroken text) :
    (∀ character ∈ text, character ≠ softBreak ∧ character ≠ hardBreak) ∧ '\n' ∉ text :=
  ⟨fun character member => ⟨(unbroken character member).1, (unbroken character member).2.1⟩,
    fun member => (unbroken '\n' member).2.2 rfl⟩

section

variable {grammar : Grammar} {settings : Settings}

/-- Do the tokens of a rule that are shown as spellings have spellings without break marks and line
ends? -/
def HasPlainSpellings (grammar : Grammar) (settings : Settings) (rule : Rule) : Prop :=
  ∀ name spelling, .terminal (.token name) ∈ rule.body.tips →
    grammar.inlineSpelling? settings name = some spelling → IsUnbroken spelling.toList

/-- Of what is shown for tips, only spellings can hold control characters. -/
theorem isControl_of_mem_tipText {tip : NodeKind} (readable : Notation.IsReadable tip)
    {character : Char} (member : character ∈ tipText grammar settings tip) :
    Unicode.isControl character = false ∨
      ∃ name spelling, tip = .terminal (.token name) ∧
        grammar.inlineSpelling? settings name = some spelling ∧ character ∈ spelling.toList := by
  revert member
  fun_cases tipText grammar settings tip with
  | case1 name =>
      intro member
      cases found : grammar.inlineSpelling? settings name with
      | none =>
          rw [found] at member
          exact .inl (isClean_of_isIdentifier readable character member).2
      | some spelling =>
          rw [found] at member
          exact .inr ⟨name, spelling, rfl, found, member⟩
  | case2 value => exact fun member => .inl (Text.isControl_of_mem_quotedLiteral member)
  | case3 name => exact fun member => .inl (isClean_of_isIdentifier readable character member).2
  | case4 body => exact fun member => .inl (Text.isControl_of_mem_bracketedSet member)
  | case5 => simp

/-- Of what is shown for tips, only spellings can hold break marks or line ends. -/
theorem isUnbroken_tipText {tip : NodeKind} (readable : Notation.IsReadable tip)
    (plain : ∀ name spelling, tip = .terminal (.token name) →
      grammar.inlineSpelling? settings name = some spelling → IsUnbroken spelling.toList) :
    IsUnbroken (tipText grammar settings tip) := by
  intro character member
  rcases isControl_of_mem_tipText readable member with
    printable | ⟨name, spelling, same, found, inside⟩
  · exact ne_lineEnds_of_isControl printable
  · exact plain name spelling same found character inside

theorem lexerParagraph_paragraph (rule : Rule) (budget : Nat) (body : Piece) :
    lexerParagraph rule (paragraph budget rule.name body) =
      heading rule ++ ['\n', ':', ' '] ++ layout budget 2 body ++ ['\n', ';', '\n', '\n'] := by
  unfold lexerParagraph heading paragraph
  split <;> simp

theorem lineEnd_not_mem_heading {rule : Rule} (named : Notation.IsIdentifier rule.name) :
    '\n' ∉ heading rule := by
  have name_unbroken := (isUnbroken_of_isIdentifier named).ne.2
  unfold heading
  split
  · exact fun member => (List.mem_append.mp member).elim (by decide) name_unbroken
  · simpa using name_unbroken

/-- The paragraph of a rule is framed, with all that its tips show unchanged, if and only if the
spellings that it shows hold no break marks and no line ends. -/
theorem isFramed_iff {rule : Rule} {text : Piece} (named : Notation.IsIdentifier rule.name)
    (readable : ∀ tip ∈ rule.body.tips, Notation.IsReadable tip)
    (assembled : IsAssembledParagraph grammar settings rule text) :
    IsFramed (heading rule) (rule.body.tips.map (tipText grammar settings))
        (lexerParagraph rule text) ↔ HasPlainSpellings grammar settings rule := by
  obtain ⟨body, rfl, assembles⟩ := assembled
  have resolved := resolves_layout settings.textColumnBudget 2 body
  have paragraph_eq := lexerParagraph_paragraph rule settings.textColumnBudget body
  constructor
  · rintro ⟨first, more, same, -, -, -, whole, weaves⟩ name spelling shown found character member
    have body_eq : layout settings.textColumnBudget 2 body = inLines first more := by
      rw [paragraph_eq, List.append_cancel_right_eq, List.append_cancel_left_eq] at same
      exact same
    have leaf : spelling.toList ∈ rule.body.tips.map (tipText grammar settings) := by
      refine List.mem_map.mpr ⟨_, shown, ?_⟩
      rw [tipText, found, Option.getD_some]
    have inside : character ∈ layout settings.textColumnBudget 2 body :=
      body_eq ▸ (weaves.isInfix leaf).subset member
    obtain ⟨no_soft, no_hard⟩ := ne_breaks_of_resolves resolved character inside
    have no_line_end : character ≠ '\n' := by
      rintro rfl
      exact whole _ leaf member
    exact ⟨no_soft, no_hard, no_line_end⟩
  · intro plain
    have unbroken : ∀ leaf ∈ rule.body.tips.map (tipText grammar settings), IsUnbroken leaf := by
      refine List.forall_mem_map.mpr fun tip member => ?_
      refine isUnbroken_tipText (readable tip member) fun name spelling same found => ?_
      exact plain name spelling (same ▸ member) found
    have woven := assembles.of_resolves (fun leaf member => (unbroken leaf member).ne.1) resolved
    have no_line_end : ∀ leaf ∈ rule.body.tips.map (tipText grammar settings), '\n' ∉ leaf :=
      fun leaf member => (unbroken leaf member).ne.2
    obtain ⟨first, more, lines, whole, each⟩ := woven.exists_inLines no_line_end
    refine ⟨first, more, ?_, lineEnd_not_mem_heading named, whole, each, no_line_end, lines ▸ woven⟩
    rw [paragraph_eq, lines]

/-- The rules of a grammar that is read from two texts are rendered with names that are identifiers,
and with tips that the reader builds. -/
theorem readable_of_mem_renderedRules {parserText lexerText : String}
    (read : Grammar.ofTexts parserText lexerText = .ok grammar) {kind : RuleKind} {rule : Rule}
    (member : rule ∈ grammar.renderedRules settings kind) :
    Notation.IsIdentifier rule.name ∧ ∀ tip ∈ rule.body.tips, Notation.IsReadable tip := by
  have readable := Grammar.readable_of_ofTexts read kind
  have named : Notation.IsIdentifier rule.name := by
    obtain ⟨declared, present, rfl | rfl⟩ := Grammar.exists_declared_of_mem_renderedRules member
    · exact (readable rule present).name
    · exact (readable declared present).name
  have kinds : rule.body.AllKinds Notation.IsReadable :=
    Grammar.allKinds_of_mem_renderedRules trivial
      (fun declared present => (readable declared present).body.isElement.allKinds_isReadable) member
  refine ⟨named, fun tip shown => ?_⟩
  obtain ⟨part, inside, rfl⟩ := List.mem_map.mp (List.mem_filter.mp shown).1
  exact kinds part inside

theorem readable_of_mem_listedRules {parserText lexerText : String}
    (read : Grammar.ofTexts parserText lexerText = .ok grammar) {rule : Rule}
    (member : rule ∈ listedRules grammar settings) :
    Notation.IsIdentifier rule.name ∧ ∀ tip ∈ rule.body.tips, Notation.IsReadable tip := by
  rcases List.mem_append.mp member with parser | lexer
  · exact readable_of_mem_renderedRules read parser
  · exact readable_of_mem_renderedRules read (List.mem_filter.mp lexer).1

end

/-- The listing of a grammar that is read from two texts consists of the paragraphs of the listed rules,
each around a body that is assembled from the texts of its tips.  A paragraph is framed and shows these
texts unchanged if and only if the spellings among them hold no break marks and no line ends. -/
theorem exists_framed_paragraphs {parserText lexerText : String} {grammar : Grammar}
    (read : Grammar.ofTexts parserText lexerText = .ok grammar) (settings : Settings) :
    ∃ texts : List Piece, ofGrammar grammar settings = .ok (String.ofList texts.flatten) ∧
      List.Forall₂ (fun rule text =>
          (∃ entry, text = lexerParagraph rule entry ∧
            IsAssembledParagraph grammar settings rule entry) ∧
          (IsFramed (heading rule) (rule.body.tips.map (tipText grammar settings)) text ↔
            HasPlainSpellings grammar settings rule))
        (listedRules grammar settings) texts := by
  obtain ⟨texts, listed, entered⟩ :=
    exists_entries (Grammar.validate_of_ofTexts read) settings rendersTo_assembledParagraph
  have readable := (List.forall₂_and_left _ _).mpr
    ⟨fun _ => readable_of_mem_listedRules read, entered⟩
  refine ⟨texts, listed, readable.imp ?_⟩
  rintro rule _ ⟨⟨named, tips⟩, entry, assembled, rfl⟩
  exact ⟨⟨entry, rfl, assembled⟩, isFramed_iff named tips assembled⟩

/-- A grammar with a token whose spelling holds a break mark. -/
def markedSpelling : Grammar :=
  { parserRules := [
      { name := "r", kind := .parser, line := 1, body := Notation.choiceOf [[Node.token "A"]] }]
    lexerRules := [
      { name := "A", kind := .lexer, line := 1, body := Notation.choiceOf [[Node.literal "a\x01b"]] },
      { name := "B", kind := .lexer, line := 1, body := Notation.choiceOf [[Node.literal "\n"]]
        isFragment := true }]
    parserSource := ["parser grammar P \x7b r : A ; \x7d"]
    lexerSource := ["lexer grammar L \x7b A : \"a\\u\x7b1\x7db\" ; fragment B : \"\\n\" ; \x7d"] }

theorem ofTexts_markedSpelling :
    Grammar.ofTexts "parser grammar P \x7b r : A ; \x7d"
      "lexer grammar L \x7b A : \"a\\u\x7b1\x7db\" ; fragment B : \"\\n\" ; \x7d" =
        .ok markedSpelling := by
  decide +kernel

theorem listedRules_markedSpelling :
    listedRules markedSpelling {} = [
      { name := "r", kind := .parser, line := 1, body := Notation.choiceOf [[Node.token "A"]] },
      { name := "B", kind := .lexer, line := 1, body := Notation.choiceOf [[Node.literal "\n"]]
        isFragment := true }] := by
  decide

/-- A quoted line end is framed; a spelling with a break mark is not shown unchanged. -/
theorem exists_framed_paragraphs_markedSpelling :
    ∃ marked quoted : Piece, ofGrammar markedSpelling {} = .ok (String.ofList (marked ++ quoted)) ∧
      ¬ IsFramed "r".toList ["a\x01b".toList] marked ∧
        IsFramed "[helper] B".toList ["'\\n'".toList] quoted := by
  obtain ⟨texts, listed, each⟩ := exists_framed_paragraphs ofTexts_markedSpelling {}
  rw [listedRules_markedSpelling] at each
  obtain ⟨marked, _, ⟨-, first⟩, later, rfl⟩ := List.forall₂_cons_left_iff.mp each
  obtain ⟨quoted, _, ⟨-, second⟩, last, rfl⟩ := List.forall₂_cons_left_iff.mp later
  cases List.forall₂_nil_left_iff.mp last
  refine ⟨marked, quoted, by simpa using listed, fun framed => ?_, ?_⟩
  · have plain := first.mp framed "A" "a\x01b" (by decide) (by decide)
    exact absurd (plain softBreak (by decide)) (by decide)
  · refine second.mpr fun name spelling shown => ?_
    simp [Notation.choiceOf, Node.literal, Node.leaf, Node.tips,
      Node.preorder, Node.preorderAll] at shown

/-- Not every paragraph shows the texts of its tips unchanged. -/
theorem not_forall_isFramed :
    ¬ ∀ (parserText lexerText : String) (grammar : Grammar),
      Grammar.ofTexts parserText lexerText = .ok grammar → ∀ settings : Settings,
        ∃ texts : List Piece, ofGrammar grammar settings = .ok (String.ofList texts.flatten) ∧
          List.Forall₂ (fun rule text =>
              IsFramed (heading rule) (rule.body.tips.map (tipText grammar settings)) text)
            (listedRules grammar settings) texts := by
  intro framed
  obtain ⟨texts, listed, each⟩ := framed _ _ _ ofTexts_markedSpelling {}
  rw [listedRules_markedSpelling] at each
  obtain ⟨marked, _, ⟨first, more, same, -, -, -, -, weaves⟩, -, rfl⟩ :=
    List.forall₂_cons_left_iff.mp each
  have written : ofGrammar markedSpelling {} =
      .ok (String.ofList "r\n: a b\n;\n\n[helper] B\n: '\\n'\n;\n\n".toList) := by
    decide
  have leaf : "a\x01b".toList <:+: inLines first more := weaves.isInfix (by decide)
  have inside : softBreak ∈ marked := by
    have shown : softBreak ∈ inLines first more := leaf.subset (by decide)
    simp [same, shown]
  have listed_twice := Except.ok.inj (listed.symm.trans written)
  rw [String.ofList_inj, List.flatten_cons] at listed_twice
  exact absurd (listed_twice ▸ List.mem_append_left _ inside) (by decide)

end Listing
end Rulebook
