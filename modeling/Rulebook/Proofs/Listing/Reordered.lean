import Rulebook.Proofs.Listing.Paragraphs

/-!
# Listings of reordered grammars

When the rules of a valid grammar are declared in another order, the listing holds the same paragraphs
in the other order, and the same lexer rules are left out.  For a paragraph is what its rule renders to
by itself, and what is absorbed is told by the tokens to which the rendered rules refer.
-/

namespace Rulebook

/-! ### Reordered grammars -/

namespace Grammar

/-- Does a grammar declare the rules of another, in each namespace in an order of its own? -/
def Reorders (permuted grammar : Grammar) : Prop :=
  ∀ kind, (permuted.rules kind).Perm (grammar.rules kind)

namespace Reorders

variable {permuted grammar : Grammar} {settings : Settings}

theorem validate (reorders : permuted.Reorders grammar) (valid : grammar.validate = .ok ()) :
    permuted.validate = .ok () := by
  rw [validate_eq_ok] at valid ⊢
  intro kind
  obtain ⟨distinct, belong⟩ := valid kind
  have names : ((permuted.rules kind).map Rule.name).Perm ((grammar.rules kind).map Rule.name) :=
    (reorders kind).map Rule.name
  exact ⟨names.nodup_iff.mpr distinct,
    fun rule member => belong rule ((reorders kind).mem_iff.mp member)⟩

/-- A name finds the same rule, since no other rule of the namespace has it. -/
theorem rule?_eq (reorders : permuted.Reorders grammar) (valid : grammar.validate = .ok ())
    (kind : RuleKind) (name : String) : permuted.rule? kind name = grammar.rule? kind name := by
  cases found : grammar.rule? kind name with
  | some rule =>
      obtain ⟨member, named⟩ := of_rule?_eq_some found
      rw [← named, rule?_name (reorders.validate valid) ((reorders kind).mem_iff.mpr member)]
  | none =>
      rw [← Option.not_isSome_iff_eq_none, isSome_rule?] at found ⊢
      rintro ⟨rule, member, named⟩
      exact found ⟨rule, (reorders kind).mem_iff.mp member, named⟩

theorem inlineSpelling?_eq (reorders : permuted.Reorders grammar) (valid : grammar.validate = .ok ())
    (settings : Settings) (token : String) :
    permuted.inlineSpelling? settings token = grammar.inlineSpelling? settings token := by
  rw [inlineSpelling?, inlineSpelling?, reorders.rule?_eq valid]

theorem mem_allRendered_iff (reorders : permuted.Reorders grammar) (settings : Settings) (rule : Rule) :
    rule ∈ permuted.allRendered settings ↔ rule ∈ grammar.allRendered settings := by
  rw [mem_allRendered, mem_allRendered]
  refine exists_congr fun kind => ?_
  rw [renderedRules_eq, renderedRules_eq]
  exact (((reorders kind).filter _).map _).mem_iff

/-- The same rules are absorbed. -/
theorem absorbs_iff (reorders : permuted.Reorders grammar) (valid : grammar.validate = .ok ())
    (settings : Settings) (name : String) :
    permuted.Absorbs settings (permuted.allRendered settings) name ↔
      grammar.Absorbs settings (grammar.allRendered settings) name := by
  rw [Absorbs, Absorbs, reorders.inlineSpelling?_eq valid]
  refine and_congr_right fun _ => exists_congr fun rule => and_congr_left fun _ => ?_
  exact reorders.mem_allRendered_iff settings rule

end Reorders
end Grammar

namespace Listing

/-- The listing looks at a grammar only to find the spellings of tokens. -/
theorem renderer_congr {permuted grammar : Grammar} {settings : Settings}
    (same : ∀ token, permuted.inlineSpelling? settings token = grammar.inlineSpelling? settings token) :
    renderer permuted settings = renderer grammar settings := by
  have resolved : Inlining.resolve permuted settings = Inlining.resolve grammar settings := by
    funext token
    rw [Inlining.resolve, Inlining.resolve, same]
  have shown : showTerminal permuted settings = showTerminal grammar settings := by
    unfold showTerminal
    rw [resolved]
  rw [renderer, renderer, shown]

/-- If the parser rules and the lexer rules of a valid grammar are each declared in another order, the
same lexer rules are absorbed, and both listings hold the same paragraphs, those of the rendered parser
rules in the order of each grammar and then those of its rendered lexer rules that are not absorbed. -/
theorem ofGrammar_reordered {grammar permuted : Grammar} (valid : grammar.validate = .ok ())
    (reorders : permuted.Reorders grammar) (settings : Settings) :
    ∃ (parts permutedParts : List (Rule × Piece) × List (Rule × Piece)) (state permutedState : State),
      paragraphs grammar settings = .ok (parts, state) ∧
        paragraphs permuted settings = .ok (permutedParts, permutedState) ∧
          (∀ name, permutedState.inlining.absorbs name = state.inlining.absorbs name) ∧
            ofGrammar grammar settings = .ok (String.ofList
                ((listed settings state.inlining grammar).flatMap fun rule =>
                  paragraphOf grammar settings (settings.remainder rule))) ∧
              ofGrammar permuted settings = .ok (String.ofList
                  ((listed settings state.inlining permuted).flatMap fun rule =>
                    paragraphOf grammar settings (settings.remainder rule))) ∧
                ∀ rule ∈ listed settings state.inlining grammar,
                  IsHeadedBy rule.name (paragraphOf grammar settings (settings.remainder rule)) := by
  have permuted_valid := reorders.validate valid
  obtain ⟨parserPart, lexerPart, state, run, -, -, -, absorbs⟩ :=
    exists_paragraphs valid settings rendersTo_paragraph
  obtain ⟨parserPart', lexerPart', state', run', -, -, -, absorbs'⟩ :=
    exists_paragraphs permuted_valid settings rendersTo_paragraph
  obtain ⟨text, headed⟩ := ofGrammar_eq_listed valid absorbs
  -- What the rules of one grammar absorb is all that its listing takes from the other rules.
  have also_absorbs : ∀ name, state.inlining.absorbs name = true ↔
      permuted.Absorbs settings (permuted.allRendered settings) name :=
    fun name => (absorbs name).trans (reorders.absorbs_iff valid settings name).symm
  obtain ⟨permuted_text, -⟩ := ofGrammar_eq_listed permuted_valid also_absorbs
  have alone : paragraphOf permuted settings = paragraphOf grammar settings := by
    unfold paragraphOf
    rw [renderer_congr (reorders.inlineSpelling?_eq valid settings)]
  rw [alone] at permuted_text
  refine ⟨_, _, state, state', run, run', fun name => ?_, text, permuted_text, headed⟩
  rw [Bool.eq_iff_iff, absorbs' name, also_absorbs name]

/-- A grammar in which a lexer rule is absorbed by rules of both namespaces. -/
def sharedLetter : Grammar :=
  { parserRules := [
      { name := "r", kind := .parser, line := 1
        body := Notation.choiceOf [[Node.leaf (.ruleRef "s")], [Node.token "B"]] },
      { name := "s", kind := .parser, line := 2, body := Notation.choiceOf [[Node.token "A"]] }]
    lexerRules := [
      { name := "A", kind := .lexer, line := 1, body := Notation.choiceOf [[Node.literal "a"]] },
      { name := "B", kind := .lexer, line := 2
        body := Notation.choiceOf [[Node.leaf (.charSet "b"), Node.token "A"]] }] }

/-- The same rules, the last ones first. -/
def sharedLetterReversed : Grammar :=
  { parserRules := sharedLetter.parserRules.reverse, lexerRules := sharedLetter.lexerRules.reverse }

theorem ofGrammar_sharedLetterReversed :
    sharedLetter.validate = .ok () ∧ sharedLetterReversed.Reorders sharedLetter ∧
      ∃ first second third : Piece,
        ofGrammar sharedLetter {} = .ok (String.ofList (first ++ second ++ third)) ∧
          ofGrammar sharedLetterReversed {} = .ok (String.ofList (second ++ first ++ third)) ∧
            IsHeadedBy "r" first ∧ IsHeadedBy "s" second ∧ IsHeadedBy "B" third := by
  have valid : sharedLetter.validate = .ok () := by
    decide
  have reorders : sharedLetterReversed.Reorders sharedLetter := by
    intro kind
    cases kind <;> exact List.reverse_perm _
  refine ⟨valid, reorders, ?_⟩
  obtain ⟨parts, _, state, _, run, -, -, text, reversed, headed⟩ :=
    ofGrammar_reordered valid reorders {}
  have absorbed : (paragraphs sharedLetter {}).map (fun outcome => outcome.2.inlining) =
      .ok ⟨["A"]⟩ := by
    decide
  rw [run] at absorbed
  have inlining : state.inlining = ⟨["A"]⟩ := Except.ok.inj absorbed
  rw [inlining] at text reversed headed
  have kept : listed {} ⟨["A"]⟩ sharedLetter =
      sharedLetter.parserRules ++ [sharedLetter.lexerRules[1]] := by
    decide
  have kept_reversed : listed {} ⟨["A"]⟩ sharedLetterReversed =
      sharedLetter.parserRules.reverse ++ [sharedLetter.lexerRules[1]] := by
    decide
  rw [kept] at text headed
  rw [kept_reversed] at reversed
  let shown (rule : Rule) : Piece :=
    paragraphOf sharedLetter {} (Settings.remainder {} rule)
  refine ⟨shown sharedLetter.parserRules[0], shown sharedLetter.parserRules[1],
    shown sharedLetter.lexerRules[1], ?_, ?_, headed _ ?_, headed _ ?_, headed _ ?_⟩
  · rw [text, List.append_assoc]
    rfl
  · rw [reversed, List.append_assoc]
    rfl
  all_goals decide

end Listing
end Rulebook
