import Rulebook.Proofs.Notation.ReadBack

/-!
# Readers depend on what they read

Of the tokens that a reader leaves it sees only whether punctuation goes on.  So whatever stands
there, as long as it begins with no punctuation, is left alone, and what stands in front of it is
read as if it stood alone.
-/

namespace Rulebook
namespace Notation

/-- Is there a token at the front, and is it no punctuation? -/
def startsPlainly : List Item → Bool
  | [] => false
  | .leaf (.mark _ _) :: _ => false
  | _ :: _ => true

theorem startsWithMark_of_startsPlainly {items : List Item} (plain : startsPlainly items = true)
    (symbol : Char) : startsWithMark symbol items = false := by
  fun_cases startsWithMark symbol items <;> simp_all [startsPlainly]

theorem ne_nil_of_startsPlainly {items : List Item} (plain : startsPlainly items = true) :
    items ≠ [] := by
  rintro rfl
  simp [startsPlainly] at plain

theorem startsWithPair_of_startsPlainly {items : List Item} (plain : startsPlainly items = true)
    (first second : Char) : startsWithPair first second items = false := by
  have absent := startsWithMark_of_startsPlainly plain first
  fun_cases startsWithPair first second items <;> simp_all [startsWithMark]

theorem drop_one_append {symbol : Char} {items : List Item}
    (starts : startsWithMark symbol items = true) (front : List Item) :
    (items ++ front).drop 1 = items.drop 1 ++ front := by
  cases items with
  | nil => simp [startsWithMark] at starts
  | cons => rfl

theorem drop_two_append {first second : Char} {items : List Item}
    (starts : startsWithPair first second items = true) (front : List Item) :
    (items ++ front).drop 2 = items.drop 2 ++ front := by
  match items with
  | [] => simp [startsWithPair] at starts
  | [.leaf (.mark _ _)] => simp [startsWithPair, startsWithMark] at starts
  | [.leaf (.identifier _ _)] | [.leaf (.text _)] | [.leaf (.character _)] | [.leaf .other]
  | [.choice _] | [.set _] | [.braces _] => simp [startsWithPair] at starts
  | _ :: _ :: _ => rfl

/-- What a punctuation character means behind an element. -/
def quantifierAt? (symbol : Char) (joint : Bool) (rest : List Item) : Option (Bool → NodeKind) :=
  if symbol = '?' then some .optional
  else if symbol = '*' then some .star
  else if symbol = '+' ∧ ¬ (joint ∧ startsWithMark '=' rest) then some .plus
  else none

theorem quantify_of_startsPlainly {items : List Item} (plain : startsPlainly items = true)
    (node : Node) : quantify node items = (node, items) := by
  fun_cases startsPlainly items <;> simp_all [startsPlainly, quantify]

/-- One quantifier goes around the node, with its question mark if it has one. -/
theorem quantify_mark (node : Node) (symbol : Char) (joint : Bool) (rest : List Item) :
    quantify node (.leaf (.mark symbol joint) :: rest) =
      (quantifierAt? symbol joint rest).elim (node, .leaf (.mark symbol joint) :: rest) fun kind =>
        if startsWithMark '?' rest then quantify (.mk (kind false) [operand node]) (rest.drop 1)
        else quantify (.mk (kind true) [operand node]) rest := by
  rw [quantify.eq_def]
  dsimp only
  rw [← quantifierAt?]
  cases quantifierAt? symbol joint rest with
  | none => rfl
  | some kind =>
      cases rest with
      | nil => rfl
      | cons item later => cases item with
        | leaf token =>
            cases token with
            | mark => simp [startsWithMark]
            | _ => rfl
        | _ => rfl

section Front

variable {front : List Item} (plain : startsPlainly front = true)

include plain

/-! ### Punctuation before plain tokens -/

theorem startsWithMark_append (symbol : Char) (items : List Item) :
    startsWithMark symbol (items ++ front) = startsWithMark symbol items := by
  cases items with
  | nil => exact startsWithMark_of_startsPlainly plain symbol
  | cons item items => cases item with
    | leaf token => cases token <;> rfl
    | _ => rfl

theorem startsWithPair_append (first second : Char) (items : List Item) :
    startsWithPair first second (items ++ front) = startsWithPair first second items := by
  cases items with
  | nil => exact startsWithPair_of_startsPlainly plain first second
  | cons item items => cases item with
    | leaf token =>
        cases token with
        | mark => simp [startsWithPair, startsWithMark_append plain]
        | _ => rfl
    | _ => rfl

theorem quantify_append (node : Node) (items : List Item) :
    quantify node (items ++ front) =
      ((quantify node items).1, (quantify node items).2 ++ front) := by
  match items with
  | [] => exact quantify_of_startsPlainly plain node
  | .leaf (.mark symbol joint) :: rest =>
      rw [List.cons_append, quantify_mark, quantify_mark, quantifierAt?,
        startsWithMark_append plain, startsWithMark_append plain, ← quantifierAt?]
      cases quantifierAt? symbol joint rest with
      | none => rfl
      | some kind =>
          rw [Option.elim_some, Option.elim_some]
          split
          · case isTrue reluctant =>
              rw [drop_one_append reluctant]
              exact quantify_append _ (rest.drop 1)
          · exact quantify_append _ rest
  | .leaf (.text _) :: _ | .leaf (.character _) :: _ | .leaf (.identifier _ _) :: _
  | .leaf .other :: _ | .choice _ :: _ | .set _ :: _ | .braces _ :: _ => rfl
  termination_by items.length

/-! ### Elements before plain tokens -/

theorem skipLabel_append {items : List Item} (some : items ≠ []) :
    skipLabel (items ++ front) = skipLabel items ++ front := by
  match items with
  | [] => exact absurd rfl some
  | .leaf (.identifier name line) :: rest =>
      rw [List.cons_append, skipLabel, skipLabel, startsWithPair_append plain,
        startsWithMark_append plain]
      split
      · case isTrue pair => exact drop_two_append pair front
      · split
        · case isTrue mark => exact drop_one_append mark front
        · rfl
  | .leaf (.mark _ _) :: _ | .leaf (.text _) :: _ | .leaf (.character _) :: _
  | .leaf .other :: _ | .choice _ :: _ | .set _ :: _ | .braces _ :: _ => rfl

theorem readBareAtom_append_iff {items rest : List Item} {node : Node} :
    readBareAtom (items ++ front) = .ok (node, rest ++ front) ↔
      readBareAtom items = .ok (node, rest) := by
  cases items with
  | nil =>
      constructor <;> intro read <;>
        exact absurd (shortens_of_readBareAtom read).length_lt (by simp)
  | cons item items =>
      match item with
      | .leaf (.mark _ _) | .leaf .other => simp [readBareAtom]
      | .leaf (.text _) | .leaf (.character _) | .leaf (.identifier _ _) => simp [readBareAtom]
      | .set (.ok _) | .set (.error _) | .choice (.ok _) | .choice (.error _) =>
          simp [readBareAtom]
      | .braces _ =>
          rw [List.cons_append, readBareAtom, readBareAtom, startsWithMark_append plain]
          split
          · case isTrue starts => rw [drop_one_append starts]; simp
          · simp

theorem readAtom_append_iff {items rest : List Item} {node : Node} :
    readAtom (items ++ front) = .ok (node, rest ++ front) ↔
      readAtom items = .ok (node, rest) := by
  cases items with
  | nil =>
      constructor <;> intro read <;>
        exact absurd (shortens_of_readAtom read).length_lt (by simp)
  | cons item items =>
      rw [readAtom, skipLabel_append plain (List.cons_ne_nil _ _), readBareAtom_append_iff plain,
        readAtom]

theorem readRange_append_iff {items rest : List Item} {node : Node} :
    readRange (items ++ front) = .ok (node, rest ++ front) ↔
      readRange items = .ok (node, rest) := by
  rw [readRange_eq_ok, readRange_eq_ok]
  constructor
  · rintro ⟨left, middle, first, ⟨single, rfl, rfl⟩ | ⟨dots, right, second, rfl⟩⟩
    · rw [startsWithPair_append plain] at single
      exact ⟨_, _, (readAtom_append_iff plain).mp first, .inl ⟨single, rfl, rfl⟩⟩
    · obtain ⟨middle, rfl⟩ : front <:+ middle :=
        ((List.suffix_append rest front).trans (shortens_of_readAtom second).suffix).trans
          (List.drop_suffix 2 middle)
      rw [startsWithPair_append plain] at dots
      rw [drop_two_append dots] at second
      exact ⟨_, _, (readAtom_append_iff plain).mp first,
        .inr ⟨dots, right, (readAtom_append_iff plain).mp second, rfl⟩⟩
  · rintro ⟨left, middle, first, ⟨single, rfl, rfl⟩ | ⟨dots, right, second, rfl⟩⟩
    · exact ⟨_, _, (readAtom_append_iff plain).mpr first,
        .inl ⟨by rw [startsWithPair_append plain, single], rfl, rfl⟩⟩
    · refine ⟨_, _, (readAtom_append_iff plain).mpr first,
        .inr ⟨by rw [startsWithPair_append plain, dots], right, ?_, rfl⟩⟩
      rw [drop_two_append dots]
      exact (readAtom_append_iff plain).mpr second

/-- What begins plainly behind an element has no part in it. -/
theorem readElement_append_iff {items rest : List Item} {node : Node} :
    readElement (items ++ front) = .ok (node, rest ++ front) ↔
      readElement items = .ok (node, rest) := by
  rw [readElement_eq_ok, readElement_eq_ok, startsWithMark_append plain]
  have start : (if startsWithMark '~' items then (items ++ front).drop 1 else items ++ front) =
      (if startsWithMark '~' items then items.drop 1 else items) ++ front := by
    split
    · case isTrue negative => exact drop_one_append negative front
    · rfl
  rw [start]
  constructor
  · rintro ⟨inner, middle, ranged, quantified⟩
    obtain ⟨middle, rfl⟩ : front <:+ middle := by
      have suffix := quantify_suffix
        (if startsWithMark '~' items then .mk .negation [negated inner] else inner) middle
      rw [quantified] at suffix
      exact (List.suffix_append rest front).trans suffix
    refine ⟨inner, middle, (readRange_append_iff plain).mp ranged, ?_⟩
    rw [quantify_append plain] at quantified
    simpa [Prod.ext_iff] using quantified
  · rintro ⟨inner, middle, ranged, quantified⟩
    refine ⟨inner, middle ++ front, (readRange_append_iff plain).mpr ranged, ?_⟩
    rw [quantify_append plain, quantified]

end Front

/-! ### Commands and labels of alternatives before plain tokens -/

theorem readIdentifier_append_iff {items rest front : List Item} {found : String × Nat} :
    readIdentifier (items ++ front) = .ok (found, rest ++ front) ↔
      readIdentifier items = .ok (found, rest) := by
  match items with
  | [] =>
      constructor <;> intro read <;>
        exact absurd (length_lt_of_readIdentifier read) (by simp)
  | .leaf (.identifier _ _) :: _ => simp [readIdentifier]
  | .leaf (.mark _ _) :: _ | .leaf (.text _) :: _ | .leaf (.character _) :: _
  | .leaf .other :: _ | .choice _ :: _ | .set _ :: _ | .braces _ :: _ => simp [readIdentifier]

theorem skipArguments_append {items : List Item} (some : items ≠ []) (front : List Item) :
    skipArguments (items ++ front) = skipArguments items ++ front := by
  match items with
  | [] => exact absurd rfl some
  | .choice _ :: _ | .leaf _ :: _ | .set _ :: _ | .braces _ :: _ => rfl

/-- What is left behind the name of a command: a comma announces another one. -/
def skipBehindCommand (items : List Item) : Except Fault (List Item) :=
  if startsWithMark ',' (skipArguments items) then skipCommands ((skipArguments items).drop 1)
  else .ok (skipArguments items)

theorem skipCommands_eq_ok {items rest : List Item} :
    skipCommands items = .ok rest ↔
      ∃ found after, readIdentifier items = .ok (found, after) ∧
        skipBehindCommand after = .ok rest := by
  rw [skipCommands]
  split
  · case h_1 fault read => simp [read]
  · case h_2 found after read =>
      rw [← skipBehindCommand, read]
      constructor
      · exact fun skip => ⟨found, after, rfl, skip⟩
      · rintro ⟨_, _, ⟨rfl, rfl⟩, skip⟩
        exact skip

theorem suffix_of_skipBehindCommand {items rest : List Item}
    (skip : skipBehindCommand items = .ok rest) : rest <:+ items := by
  rw [skipBehindCommand] at skip
  split at skip
  · exact (suffix_of_skipCommands skip).trans
      ((List.drop_suffix _ _).trans (skipArguments_suffix items))
  · rw [← Except.ok.inj skip]
    exact skipArguments_suffix items

/-- What begins plainly could be the arguments of a command, so the commands must not end where it
begins. -/
theorem skipCommands_append_iff {front : List Item} (plain : startsPlainly front = true)
    {items rest : List Item} (some : rest ≠ []) :
    skipCommands (items ++ front) = .ok (rest ++ front) ↔ skipCommands items = .ok rest := by
  have behind {after : List Item} (shorter : after.length < items.length) (more : after ≠ []) :
      skipBehindCommand (after ++ front) = .ok (rest ++ front) ↔
        skipBehindCommand after = .ok rest := by
    rw [skipBehindCommand, skipBehindCommand, skipArguments_append more,
      startsWithMark_append plain]
    split
    · case isTrue comma =>
        have dropped : ((skipArguments after).drop 1).length ≤ after.length :=
          ((List.drop_suffix _ _).trans (skipArguments_suffix after)).length_le
        rw [drop_one_append comma]
        exact skipCommands_append_iff plain some
    · simp
  rw [skipCommands_eq_ok, skipCommands_eq_ok]
  constructor
  · rintro ⟨found, after, read, skip⟩
    obtain ⟨more, rfl⟩ := suffix_of_skipBehindCommand skip
    rw [← List.append_assoc] at read skip
    have identified := readIdentifier_append_iff.mp read
    exact ⟨found, _, identified,
      (behind (length_lt_of_readIdentifier identified) (by simp [some])).mp skip⟩
  · rintro ⟨found, after, read, skip⟩
    have more : after ≠ [] := by
      rintro rfl
      exact some (List.suffix_nil.mp (suffix_of_skipBehindCommand skip))
    exact ⟨found, after ++ front, readIdentifier_append_iff.mpr read,
      (behind (length_lt_of_readIdentifier read) more).mpr skip⟩
  termination_by items.length
  decreasing_by exact Nat.lt_of_le_of_lt dropped shorter

theorem skipCommandList_append_iff {front : List Item} (plain : startsPlainly front = true)
    {items rest : List Item} (some : rest ≠ []) :
    skipCommandList (items ++ front) = .ok (rest ++ front) ↔ skipCommandList items = .ok rest := by
  rw [skipCommandList, skipCommandList, startsWithPair_append plain]
  split
  · case isTrue arrow =>
      rw [drop_two_append arrow]
      exact skipCommands_append_iff plain some
  · simp

theorem skipAlternativeLabel_append_iff {front : List Item} (plain : startsPlainly front = true)
    {items rest : List Item} :
    skipAlternativeLabel (items ++ front) = .ok (rest ++ front) ↔
      skipAlternativeLabel items = .ok rest := by
  rw [skipAlternativeLabel_eq_ok, skipAlternativeLabel_eq_ok, startsWithMark_append plain]
  split
  · case isTrue number =>
      rw [drop_one_append number]
      exact exists_congr fun _ => readIdentifier_append_iff
  · exact List.append_left_inj front

end Notation
end Rulebook
