import Mathlib.Data.List.TakeWhile
import Rulebook.Notation.Scanner

/-!
# Names that the scanner finds

Every name among the tokens of a text is an identifier, so none of its characters is a sign of the
notation, a blank or a control character.
-/

namespace Rulebook
namespace Notation

/-- Is a text a word: a character that can begin an identifier, and characters that can follow? -/
def IsWord : List Char → Prop
  | [] => False
  | initial :: later => Unicode.isIdentifierStart initial = true ∧
      ∀ character ∈ later, Unicode.isIdentifierContinue character = true

/-- Is the whole name one identifier: a word, or the raw mark and a word that has a raw spelling? -/
def IsIdentifier (name : String) : Prop :=
  IsWord name.toList ∨
    ∃ word, name.toList = 'r' :: '#' :: word ∧ IsWord word ∧
      String.ofList word ∉ ["_", "super", "self", "Self", "crate"]

/-! ### Widths of identifiers -/

theorem isWord_iff {text : List Char} :
    IsWord text ↔ text ≠ [] ∧ identifierWidth text = text.length := by
  cases text with
  | nil => simp [IsWord]
  | cons initial rest =>
      have full : (rest.takeWhile Unicode.isIdentifierContinue).length = rest.length ↔
          ∀ character ∈ rest, Unicode.isIdentifierContinue character = true := by
        rw [← List.takeWhile_eq_self_iff]
        exact ⟨(List.takeWhile_prefix _).eq_of_length, congrArg List.length⟩
      cases starts : Unicode.isIdentifierStart initial with
      | false => simp [IsWord, identifierWidth, starts]
      | true => simp [IsWord, identifierWidth, starts, full, Nat.add_comm 1]

/-- The raw mark holds a character that stands in no word. -/
theorem not_isWord_raw (word : List Char) : ¬ IsWord ('r' :: '#' :: word) := by
  rintro ⟨-, continues⟩
  exact absurd (continues '#' List.mem_cons_self) (by decide +kernel)

/-- A name is an identifier if the scanner takes all of it for one. -/
theorem isIdentifier_iff {name : String} :
    IsIdentifier name ↔ anyIdentifierWidth? name.toList = some name.toList.length := by
  rw [IsIdentifier]
  generalize name.toList = text
  unfold anyIdentifierWidth?
  split
  · rename_i word
    rw [or_iff_right (not_isWord_raw word)]
    constructor
    · rintro ⟨_, same, whole, raw⟩
      obtain rfl := (List.cons.inj (List.cons.inj same).2).2
      obtain ⟨some, width⟩ := isWord_iff.mp whole
      simpa [width, some, withoutRawSpelling] using raw
    · intro found
      dsimp only at found
      split at found
      · cases found
      · rename_i spelled
        rw [not_or] at spelled
        have width : identifierWidth word = word.length := by simpa using found
        rw [width, List.take_length] at spelled
        refine ⟨word, rfl, isWord_iff.mpr ⟨?_, width⟩, by simpa [withoutRawSpelling] using spelled.2⟩
        rintro rfl
        exact spelled.1 rfl
  · rename_i plain
    have not_raw : ¬ ∃ word, text = 'r' :: '#' :: word ∧ IsWord word ∧
        String.ofList word ∉ ["_", "super", "self", "Self", "crate"] :=
      fun ⟨word, same, _⟩ => plain word same
    rw [or_iff_left not_raw, isWord_iff]
    dsimp only
    constructor
    · rintro ⟨some, width⟩
      simpa [width] using some
    · intro found
      split at found
      · cases found
      · rename_i some
        have width : identifierWidth text = text.length := by simpa using found
        exact ⟨by simpa [width] using some, width⟩

instance (name : String) : Decidable (IsIdentifier name) :=
  decidable_of_iff _ isIdentifier_iff.symm

theorem take_length_takeWhile {Value : Type} (test : Value → Bool) (values : List Value) :
    values.take (values.takeWhile test).length = values.takeWhile test :=
  (List.prefix_iff_eq_take.mp (List.takeWhile_prefix test)).symm

theorem identifierWidth_take (text : List Char) :
    identifierWidth (text.take (identifierWidth text)) = identifierWidth text := by
  cases text with
  | nil => rfl
  | cons initial rest =>
      by_cases starts : Unicode.isIdentifierStart initial = true
      · simp only [identifierWidth, starts, if_true, Nat.add_comm 1, List.take_succ_cons,
          take_length_takeWhile, List.takeWhile_idem]
      · simp [identifierWidth, starts]

theorem identifierWidth_le (text : List Char) : identifierWidth text ≤ text.length := by
  cases text with
  | nil => simp [identifierWidth]
  | cons initial rest =>
      have shorter : (rest.takeWhile Unicode.isIdentifierContinue).length ≤ rest.length :=
        (List.takeWhile_sublist Unicode.isIdentifierContinue).length_le
      simp only [identifierWidth, List.length_cons]
      split <;> omega

theorem anyIdentifierWidth?_le {text : List Char} {width : Nat}
    (found : anyIdentifierWidth? text = some width) : width ≤ text.length := by
  unfold anyIdentifierWidth? at found
  split at found
  · rename_i rest
    have := identifierWidth_le rest
    dsimp only at found
    split at found
    · simp at found
    · simp only [Option.some.injEq, List.length_cons] at found ⊢
      omega
  · have := identifierWidth_le text
    dsimp only at found
    split at found
    · simp at found
    · simp only [Option.some.injEq] at found
      omega

theorem anyIdentifierWidth?_take {text : List Char} {width : Nat}
    (found : anyIdentifierWidth? text = some width) :
    anyIdentifierWidth? (text.take width) = some width := by
  unfold anyIdentifierWidth? at found
  split at found
  · rename_i rest
    dsimp only at found
    split at found
    · simp at found
    · rename_i allowed
      simp only [Option.some.injEq] at found
      subst found
      simp only [List.take_succ_cons, anyIdentifierWidth?, identifierWidth_take, List.take_take,
        Nat.min_self]
      rw [if_neg allowed]
  · rename_i plain
    dsimp only at found
    split at found
    · simp at found
    · rename_i some
      simp only [Option.some.injEq] at found
      subst found
      unfold anyIdentifierWidth?
      split
      · rename_i rest raw
        refine (plain (rest ++ text.drop (identifierWidth text)) ?_).elim
        rw [← List.cons_append, ← List.cons_append, ← raw, List.take_append_drop]
      · dsimp only
        rw [identifierWidth_take, if_neg some]

/-- What the scanner takes as a name is an identifier. -/
theorem isIdentifier_of_identifier? {line width : Nat} {text : List Char} {leaf : Leaf}
    (found : identifier? line text = some ⟨leaf, width⟩) :
    ∃ name, leaf = .identifier name line ∧ IsIdentifier name := by
  unfold identifier? at found
  split at found
  · simp at found
  · obtain ⟨inner, measured, same⟩ := Option.map_eq_some_iff.mp found
    simp only [Text.Found.mk.injEq] at same
    refine ⟨_, same.1.symm, ?_⟩
    have shorter := anyIdentifierWidth?_le measured
    simp [isIdentifier_iff, anyIdentifierWidth?_take measured, shorter]

/-! ### Characters of names -/

/-- Can the character stand in a name, with its raw mark? -/
def isNameCharacter (character : Char) : Bool :=
  Unicode.isIdentifierStart character || Unicode.isIdentifierContinue character ||
    character == '#'

theorem IsWord.isNameCharacter {text : List Char} (word : IsWord text) :
    ∀ character ∈ text, isNameCharacter character := by
  cases text with
  | nil => nofun
  | cons initial later =>
      obtain ⟨starts, continues⟩ := word
      intro character member
      rcases List.mem_cons.mp member with rfl | inside
      · simp [Notation.isNameCharacter, starts]
      · simp [Notation.isNameCharacter, continues character inside]

/-- A name consists of name characters. -/
theorem IsIdentifier.isNameCharacter {name : String} (identifier : IsIdentifier name) :
    ∀ character ∈ name.toList, isNameCharacter character := by
  rcases identifier with whole | ⟨word, raw, whole, -⟩
  · exact whole.isNameCharacter
  · rw [raw, List.forall_mem_cons, List.forall_mem_cons]
    exact ⟨by decide +kernel, by decide +kernel, whole.isNameCharacter⟩

theorem IsIdentifier.ne_nil {name : String} (identifier : IsIdentifier name) : name.toList ≠ [] := by
  intro empty
  simp [IsIdentifier, IsWord, empty] at identifier

/-! ### Names among tokens -/

/-- A token that is an identifier if it is a name. -/
def Leaf.Named : Leaf → Prop
  | .identifier name _ => IsIdentifier name
  | _ => True

/-- A token of the flat text that is an identifier if it is a name. -/
def Lexeme.Named : Lexeme → Prop
  | .leaf token => token.Named
  | _ => True

/-- A token tree all of whose names are identifiers. -/
inductive TokenTree.Named : TokenTree → Prop where
  /-- A single token. -/
  | leaf {token : Leaf} (named : token.Named) : Named (.leaf token)
  /-- The tokens between two brackets. -/
  | group {delimiter : Delimiter} {content : List TokenTree}
      (each : ∀ tree ∈ content, Named tree) : Named (.group delimiter content)

theorem named_of_mark? {text : List Char} {found : Text.Found Leaf}
    (read : mark? text = some found) : found.value.Named := by
  revert read
  fun_cases mark? text <;> intro read <;> simp_all <;> subst read <;> trivial

theorem named_of_leaf? {line : Nat} {text : List Char} {found : Text.Found Leaf}
    (read : leaf? line text = some found) : found.value.Named := by
  revert read
  fun_cases leaf? line text with
  | case1 => rintro ⟨⟩; trivial
  | case2 => rintro ⟨⟩; trivial
  | case3 => rintro ⟨⟩; trivial
  | case4 =>
      intro read
      rcases Option.or_eq_some_iff.mp read with marked | ⟨-, identified⟩
      · exact named_of_mark? marked
      · obtain ⟨name, value, identifier⟩ := isIdentifier_of_identifier? identified
        rw [value]
        exact identifier

theorem isIdentifier_doc : IsIdentifier "doc" := by
  decide +kernel

theorem named_of_comment {line : Nat} {comment : Comment} {lexemes : List Lexeme}
    (read : comment.lexemes? line = some lexemes) : ∀ lexeme ∈ lexemes, lexeme.Named := by
  unfold Comment.lexemes? at read
  split at read
  · simp only [Option.some.injEq] at read
    simp [← read]
  · split at read
    · simp at read
    · simp only [Option.some.injEq] at read
      rw [← read]
      split <;> simp [Lexeme.Named, Leaf.Named, isIdentifier_doc]

theorem named_of_lexemes? {line : Nat} {text : List Char} {found : Text.Found (List Lexeme)}
    (read : lexemes? line text = some found) : ∀ lexeme ∈ found.value, lexeme.Named := by
  have single (lexeme : Lexeme) {width : Nat} (same : some ⟨[lexeme], width⟩ = some found)
      (named : lexeme.Named) : ∀ lexeme ∈ found.value, lexeme.Named := by
    rw [← Option.some.inj same]
    simpa using named
  cases text with
  | nil => simp [lexemes?] at read
  | cons initial rest =>
      simp only [lexemes?] at read
      split at read
      · rw [← Option.some.inj read]
        simp
      · split at read
        · obtain ⟨lexemes, documented, same⟩ := Option.map_eq_some_iff.mp read
          rw [← same]
          exact named_of_comment documented
        · iterate 7
            split at read
            · exact single _ read trivial
          obtain ⟨leaf, recognised, same⟩ := Option.map_eq_some_iff.mp read
          exact single (.leaf leaf.value) (congrArg some same) (named_of_leaf? recognised)

theorem named_of_scanFrom {line skip : Nat} {found lexemes : List Lexeme} {text : List Char}
    (before : ∀ lexeme ∈ found, lexeme.Named)
    (scanned : scanFrom line found skip text = some lexemes) :
    ∀ lexeme ∈ lexemes, lexeme.Named := by
  fun_induction scanFrom line found skip text with
  | case1 =>
      simp only [Option.some.injEq] at scanned
      simpa [← scanned] using before
  | case2 _ _ _ _ _ induction => exact induction before scanned
  | case3 => simp at scanned
  | case4 line found character rest next recognised induction =>
      refine induction ?_ scanned
      intro lexeme member
      rcases List.mem_append.mp member with fresh | old
      · exact named_of_lexemes? recognised lexeme (List.mem_reverse.mp fresh)
      · exact before lexeme old

theorem named_of_nestFrom {outer : List (Delimiter × List TokenTree)} {before : List TokenTree}
    {lexemes : List Lexeme} {trees : List TokenTree}
    (around : ∀ opened ∈ outer, ∀ tree ∈ opened.2, tree.Named)
    (inside : ∀ tree ∈ before, tree.Named) (named : ∀ lexeme ∈ lexemes, lexeme.Named)
    (nested : nestFrom outer before lexemes = some trees) : ∀ tree ∈ trees, tree.Named := by
  fun_induction nestFrom outer before lexemes with
  | case1 =>
      simp only [Option.some.injEq] at nested
      simpa [← nested] using inside
  | case2 => simp at nested
  | case3 outer before leaf later induction =>
      rw [List.forall_mem_cons] at named
      exact induction around (List.forall_mem_cons.mpr ⟨.leaf named.1, inside⟩) named.2 nested
  | case4 outer before delimiter later induction =>
      rw [List.forall_mem_cons] at named
      exact induction (List.forall_mem_cons.mpr ⟨inside, around⟩) (by simp) named.2 nested
  | case5 => simp at nested
  | case6 before delimiter later opened further induction =>
      rw [List.forall_mem_cons] at named around
      refine induction around.2 ?_ named.2 nested
      refine List.forall_mem_cons.mpr ⟨.group ?_, around.1⟩
      simpa using inside
  | case7 => simp at nested

/-- The names among the tokens of a text are identifiers. -/
theorem named_of_tokens? {text : String} {trees : List TokenTree}
    (read : tokens? text = some trees) : ∀ tree ∈ trees, tree.Named := by
  obtain ⟨lexemes, scanned, nested⟩ := Option.bind_eq_some_iff.mp read
  exact named_of_nestFrom (by simp) (by simp) (named_of_scanFrom (by simp) scanned) nested

end Notation
end Rulebook
